import CommitPolicy.Proofs.Memo.Recency

/-!
# A larger memo does not do worse

Two new memos, the second one at least as large as the first, are taken through the same steps, and
no computation takes steps itself.  It is shown that after every step the keys in the smaller memo
are among those in the larger one, in the same order, so what the smaller one finds the larger one
finds as well.

The memos need not do the same: a key that only the larger one holds becomes its most recent one
without being stored in the smaller one.  What carries the induction is that the smaller memo is
full as soon as it holds less than the larger one, so whatever it stores it gives up a key for.
-/

namespace CommitPolicy

/-! ### The keys of two memos -/

/-- At most as many entries can be stored with the first size as with the second. -/
def SizeLe {α : Type} [LE α] (n n' : Option α) : Prop :=
  ∀ k', n' = some k' → ∃ k, n = some k ∧ k ≤ k'

section Nested

variable {α : Type} {n n' : Option Nat} {few many : List α}

theorem newest_sublist (n : Option Nat) (l : List α) :
  (newest n l).Sublist l
  := by
  cases n with
  | none => apply List.Sublist.refl
  | some n => apply List.drop_sublist

theorem newest_sublist_newest (hsize : SizeLe n n') (l : List α) :
  (newest n l).Sublist (newest n' l)
  := by
  cases n' with
  | none => apply newest_sublist
  | some k' =>
      obtain ⟨k, rfl, hle⟩ := hsize k' rfl
      apply List.drop_sublist_drop_left
      omega

theorem newest_concat_of_full (few : List α) (a : α) :
  newest (some few.length) (few ++ [a]) = (few ++ [a]).tail
  := by
  rw [newest, Option.elim_some, List.rtake, ← List.drop_one]
  congr 1
  simp

theorem tail_sublist_newest (hroom : ∀ k', n' = some k' → many.length ≤ k') (a : α) :
  (many ++ [a]).tail.Sublist (newest n' (many ++ [a]))
  := by
  cases n' with
  | none => apply List.tail_sublist
  | some k' =>
      have hlength := hroom k' rfl
      rw [← List.drop_one]
      apply List.drop_sublist_drop_left
      simp
      omega

theorem length_newest_le_of_eq {k : Nat} (hk : n = some k) (l : List α) :
  (newest n l).length ≤ k
  := by
  subst hk
  apply length_newest_le

/-- The keys of two memos of different sizes: those in the smaller one are in the larger one, in the
same order, and if they are not the same keys, there is no room in the smaller one. -/
structure NestedKeys (n n' : Option Nat) (few many : List α) : Prop where
  sublist : few.Sublist many
  full : few = many ∨ n = some few.length
  nodup : many.Nodup
  room : ∀ k, n = some k → few.length ≤ k
  room' : ∀ k', n' = some k' → many.length ≤ k'

/-- Nothing is stored in either. -/
theorem NestedKeys.nil (n n' : Option Nat) :
  NestedKeys n n' ([] : List α) []
  := ⟨.refl [], .inl rfl, .nil, fun _ _ => Nat.zero_le _, fun _ _ => Nat.zero_le _⟩

section NestedKeys

variable {a : α} (h : NestedKeys n n' few many)
include h

theorem NestedKeys.full_of_mem (ha : a ∉ few) (ha' : a ∈ many) :
  n = some few.length
  := by
  rcases h.full with rfl | hfull
  · apply absurd ha' ha
  · apply hfull

/-- A new key is stored in both memos. -/
theorem NestedKeys.put (hsize : SizeLe n n') (ha' : a ∉ many) :
  NestedKeys n n' (newest n (few ++ [a])) (newest n' (many ++ [a]))
  := by
  have hnodup : (newest n' (many ++ [a])).Nodup := by
    apply List.Nodup.sublist (newest_sublist _ _)
    apply h.nodup.append (List.nodup_singleton a)
    simpa using ha'
  have hroom : ∀ k, n = some k → (newest n (few ++ [a])).length ≤ k :=
    fun k hk => length_newest_le_of_eq hk _
  have hroom' : ∀ k', n' = some k' → (newest n' (many ++ [a])).length ≤ k' :=
    fun k' hk' => length_newest_le_of_eq hk' _
  rcases h.full with rfl | rfl
  · have hsublist := newest_sublist_newest hsize (few ++ [a])
    refine ⟨hsublist, ?_, hnodup, hroom, hroom'⟩
    -- Either nothing is given up for the key, also in the larger memo, or the smaller one is full.
    obtain ⟨above, heq, rfl | hfull⟩ := exists_append_newest n (few ++ [a])
    · apply Or.inl (hsublist.antisymm _)
      rw [List.nil_append] at heq
      rw [← heq]
      apply newest_sublist
    · apply Or.inr hfull
  · refine ⟨?_, ?_, hnodup, hroom, hroom'⟩
    · rw [newest_concat_of_full]
      apply ((h.sublist.append_right [a]).tail).trans (tail_sublist_newest h.room' a)
    · rw [newest_concat_of_full]
      simp

variable [BEq α] [LawfulBEq α]

omit h in
theorem nodup_filter_concat {l : List α} (hl : l.Nodup) (a : α) :
  (l.filter (· != a) ++ [a]).Nodup
  := by
  apply (hl.filter _).append (List.nodup_singleton a)
  simp

theorem NestedKeys.sublist_filter (ha : a ∉ few) :
  few.Sublist (many.filter (· != a))
  := by
  rw [← filter_bne_eq_self ha]
  apply h.sublist.filter

/-- A key of both memos is used. -/
theorem NestedKeys.use (ha : a ∈ few) :
  NestedKeys n n' (few.filter (· != a) ++ [a]) (many.filter (· != a) ++ [a])
  := by
  have hlength := length_filter_concat (h.nodup.sublist h.sublist) ha
  have hlength' := length_filter_concat h.nodup (h.sublist.subset ha)
  constructor
  · apply (h.sublist.filter _).append_right
  · rw [hlength]
    apply h.full.imp_left
    rintro rfl
    rfl
  · apply nodup_filter_concat h.nodup
  · rw [hlength]
    apply h.room
  · rw [hlength']
    apply h.room'

/-- A key of the larger memo is used, and the smaller one does not store it. -/
theorem NestedKeys.use_many (ha : a ∉ few) (ha' : a ∈ many) :
  NestedKeys n n' few (many.filter (· != a) ++ [a])
  := by
  constructor
  · apply (h.sublist_filter ha).trans (List.sublist_append_left _ _)
  · apply Or.inr (h.full_of_mem ha ha')
  · apply nodup_filter_concat h.nodup
  · apply h.room
  · rw [length_filter_concat h.nodup ha']
    apply h.room'

/-- A key of the larger memo is used, and the smaller one stores it. -/
theorem NestedKeys.put_few (ha : a ∉ few) (ha' : a ∈ many) :
  NestedKeys n n' (newest n (few ++ [a])) (many.filter (· != a) ++ [a])
  := by
  obtain rfl := h.full_of_mem ha ha'
  rw [newest_concat_of_full]
  constructor
  · apply (List.tail_sublist _).trans ((h.sublist_filter ha).append_right _)
  · simp
  · apply nodup_filter_concat h.nodup
  · simp
  · rw [length_filter_concat h.nodup ha']
    apply h.room'

end NestedKeys

end Nested

/-! ### Steps on two memos -/

variable {V : Type}

/-- The second memo is at least as large as the first, holds its keys, and has found at least as
much.  Nothing is in flight in either. -/
structure Memo.Includes (m m' : Memo V) : Prop where
  size : SizeLe m.maxSize m'.maxSize
  keys : NestedKeys m.maxSize m'.maxSize m.keys m'.keys
  idle : m.inFlight = []
  idle' : m'.inFlight = []
  hits : m.hits ≤ m'.hits
  misses : m'.misses ≤ m.misses

theorem Memo.Includes.of_make? {n n' : Option Int} (hsize : SizeLe n n') {m m' : Memo V}
    (hm : Memo.make? n = .ok m) (hm' : Memo.make? n' = .ok m') :
  m.Includes m'
  := by
  obtain rfl := eq_empty_of_make? hm
  obtain rfl := eq_empty_of_make? hm'
  constructor
  · intro k' hk'
    obtain ⟨i', rfl, rfl⟩ := Option.map_eq_some_iff.mp hk'
    obtain ⟨i, rfl, hle⟩ := hsize i' rfl
    use i.toNat, rfl, Int.toNat_le_toNat hle
  · apply NestedKeys.nil
  · rfl
  · rfl
  · apply Nat.le_refl
  · apply Nat.le_refl

/-- A value is found: a stored one is given, or a key is said to be stored. -/
def MemoReport.Finds : MemoReport V → Prop
  | computed ran result _ _ => ran = false ∧ result.isOk
  | got value _ => value.isSome
  | contained present _ => present
  | cleared _ => False

/-- The second report is of at least as much success as the first: the keys that are stored then
include those that are stored after the first, in the same order, a value is found if one was found
the first time, and as many were found and as few were computed up to then. -/
structure MemoReport.AtMost (r r' : MemoReport V) : Prop where
  keys : r.after.keys.Sublist r'.after.keys
  finds : r.Finds → r'.Finds
  hits : r.after.hits ≤ r'.after.hits
  misses : r'.after.misses ≤ r.after.misses

namespace MemoStep

/-- If the step computes a value, no steps are taken meanwhile. -/
def Plain : MemoStep V → Prop
  | compute _ _ _ _ inner => inner = []
  | _ => True

variable {m m' : Memo V} {key : String}

/-- A stored value is found. -/
theorem run_compute_of_mem (hkey : key ∈ m.keys) (value : V) (keep : Bool) (fault : Option String)
    (inner : List (MemoStep V)) :
  ∃ stored, run m (.compute key value keep fault inner) = .computed false (.ok stored) []
    { m with entries := m.touch key stored, hits := m.hits + 1 }
  := by
  obtain ⟨stored, -, henter⟩ | ⟨hget, -, -⟩ | ⟨hget, -, -⟩ := Memo.enter_cases m key
  · use stored
    rw [run, henter]
  · apply absurd hkey (Memo.get?_eq_none_iff.mp hget)
  · apply absurd hkey (Memo.get?_eq_none_iff.mp hget)

/-- A value that is not stored is computed, and stored if it is to be kept and its computation does
not fail. -/
theorem run_compute_of_not_mem (hidle : m.inFlight = []) (hkey : key ∉ m.keys)
    (hroom : ∀ n, m.maxSize = some n → m.keys.length ≤ n) (value : V) (keep : Bool)
    (fault : Option String) :
  ∃ result after, run m (.compute key value keep fault []) = .computed true result [] after
    ∧ after.maxSize = m.maxSize ∧ after.inFlight = []
    ∧ after.keys
      = (if keep = true ∧ fault = none then newest m.maxSize (m.keys ++ [key]) else m.keys)
    ∧ after.hits = m.hits ∧ after.misses = m.misses + 1
  := by
  have henter := Memo.enter_of_get?_eq_none (Memo.get?_eq_none_iff.mpr hkey) (by simp [hidle])
  have hflight := (inFlight_run m (.compute key value keep fault [])).trans hidle
  rw [run_compute_of_lead henter] at hflight ⊢
  refine ⟨_, _, rfl, ?_⟩
  cases fault with
  | some text => exact ⟨rfl, hflight, (if_neg (by simp)).symm, rfl, rfl⟩
  | none =>
      cases keep with
      | false => exact ⟨rfl, hflight, (if_neg (by simp)).symm, rfl, rfl⟩
      | true =>
          rw [Memo.keys, List.length_map] at hroom
          rw [if_pos ⟨rfl, rfl⟩]
          exact ⟨rfl, hflight, Memo.keys_settle hroom hkey value, rfl, rfl⟩

theorem finds_compute_iff {value : V} {keep : Bool} {fault : Option String}
    {inner : List (MemoStep V)} :
  (run m (.compute key value keep fault inner)).Finds ↔ key ∈ m.keys
  := by
  rw [← Memo.isSome_get?_iff]
  obtain ⟨stored, hget, henter⟩ | ⟨hget, -, henter⟩ | ⟨hget, -, henter⟩ := Memo.enter_cases m key
  · rw [run, henter, hget]
    exact ⟨fun _ => rfl, fun _ => ⟨rfl, rfl⟩⟩
  · rw [run, henter, hget]
    constructor
    · rintro ⟨-, ⟨⟩⟩
    · nofun
  · rw [run_compute_of_lead henter, hget]
    constructor
    · rintro ⟨⟨⟩, -⟩
    · nofun

/-- A memo that holds more keys finds more. -/
theorem finds_of_subset (hsubset : m.keys ⊆ m'.keys) {step : MemoStep V}
    (hfinds : (run m step).Finds) :
  (run m' step).Finds
  := by
  cases step with
  | compute key value keep fault inner =>
      apply finds_compute_iff.mpr (hsubset (finds_compute_iff.mp hfinds))
  | get key => apply Memo.isSome_get?_iff.mpr (hsubset (Memo.isSome_get?_iff.mp hfinds))
  | contains key => apply Memo.isSome_get?_iff.mpr (hsubset (Memo.isSome_get?_iff.mp hfinds))
  | clear => cases hfinds

section Includes

variable (h : m.Includes m')
include h

/-- Both memos find a value. -/
theorem includes_of_mem (hkey : key ∈ m.keys) (value : V) (keep : Bool) (fault : Option String) :
  (run m (.compute key value keep fault [])).after.Includes
    (run m' (.compute key value keep fault [])).after
  := by
  obtain ⟨stored, hrun⟩ := run_compute_of_mem hkey value keep fault []
  obtain ⟨stored', hrun'⟩ := run_compute_of_mem (h.keys.sublist.subset hkey) value keep fault []
  rw [hrun, hrun']
  refine ⟨h.size, ?_, h.idle, h.idle', Nat.succ_le_succ h.hits, h.misses⟩
  change NestedKeys _ _ ((m.touch key stored).map (·.1)) ((m'.touch key stored').map (·.1))
  rw [Memo.keys_touch, Memo.keys_touch]
  apply h.keys.use hkey

/-- Only the larger memo finds a value. -/
theorem includes_of_mem_larger (hkey : key ∉ m.keys) (hkey' : key ∈ m'.keys) (value : V)
    (keep : Bool) (fault : Option String) :
  (run m (.compute key value keep fault [])).after.Includes
    (run m' (.compute key value keep fault [])).after
  := by
  obtain ⟨result, after, hrun, hsize, hidle, hkeys, hhits, hmisses⟩ :=
    run_compute_of_not_mem h.idle hkey h.keys.room value keep fault
  obtain ⟨stored', hrun'⟩ := run_compute_of_mem hkey' value keep fault []
  rw [hrun, hrun', MemoReport.after, MemoReport.after]
  constructor
  · rw [hsize]
    apply h.size
  · change NestedKeys after.maxSize _ after.keys ((m'.touch key stored').map (·.1))
    rw [hsize, hkeys, Memo.keys_touch]
    split
    · apply h.keys.put_few hkey hkey'
    · apply h.keys.use_many hkey hkey'
  · apply hidle
  · apply h.idle'
  · rw [hhits]
    apply Nat.le_succ_of_le h.hits
  · rw [hmisses]
    apply Nat.le_succ_of_le h.misses

/-- A value is computed for both memos. -/
theorem includes_of_not_mem (hkey' : key ∉ m'.keys) (value : V) (keep : Bool)
    (fault : Option String) :
  (run m (.compute key value keep fault [])).after.Includes
    (run m' (.compute key value keep fault [])).after
  := by
  have hkey : key ∉ m.keys := fun hkey => hkey' (h.keys.sublist.subset hkey)
  obtain ⟨result, after, hrun, hsize, hidle, hkeys, hhits, hmisses⟩ :=
    run_compute_of_not_mem h.idle hkey h.keys.room value keep fault
  obtain ⟨result', after', hrun', hsize', hidle', hkeys', hhits', hmisses'⟩ :=
    run_compute_of_not_mem h.idle' hkey' h.keys.room' value keep fault
  rw [hrun, hrun', MemoReport.after, MemoReport.after]
  constructor
  · rw [hsize, hsize']
    apply h.size
  · rw [hsize, hsize', hkeys, hkeys']
    split
    · apply h.keys.put h.size hkey'
    · apply h.keys
  · apply hidle
  · apply hidle'
  · rw [hhits, hhits']
    apply h.hits
  · rw [hmisses, hmisses']
    apply Nat.succ_le_succ h.misses

/-- Every step keeps what the larger memo has ahead. -/
theorem includes_run {step : MemoStep V} (hplain : step.Plain) :
  (run m step).after.Includes (run m' step).after
  := by
  cases step with
  | compute key value keep fault inner =>
      obtain rfl : inner = [] := hplain
      by_cases hkey : key ∈ m.keys
      · apply includes_of_mem h hkey
      · by_cases hkey' : key ∈ m'.keys
        · apply includes_of_mem_larger h hkey hkey'
        · apply includes_of_not_mem h hkey'
  | get key => apply h
  | contains key => apply h
  | clear =>
      exact ⟨h.size, .nil _ _, h.idle, h.idle', Nat.le_refl 0, Nat.le_refl 0⟩

end Includes

theorem atMost_runAll (h : m.Includes m') {steps : List (MemoStep V)}
    (hplain : ∀ step ∈ steps, step.Plain) :
  List.Forall₂ MemoReport.AtMost (runAll m steps) (runAll m' steps)
  := by
  induction steps generalizing m m' with
  | nil => apply List.Forall₂.nil
  | cons step rest ih =>
      rw [List.forall_mem_cons] at hplain
      have hafter := includes_run h hplain.1
      constructor
      · exact ⟨hafter.keys.sublist, finds_of_subset h.keys.sublist.subset, hafter.hits,
          hafter.misses⟩
      · apply ih hafter hplain.2

/-- Of two new memos that take the same steps, and whose computations take no steps themselves, the
larger one does at least as well after every step. -/
theorem larger_does_no_worse {n n' : Option Int} (hsize : SizeLe n n')
    (hm : Memo.make? n = .ok m) (hm' : Memo.make? n' = .ok m') {steps : List (MemoStep V)}
    (hplain : ∀ step ∈ steps, step.Plain) :
  List.Forall₂ MemoReport.AtMost (runAll m steps) (runAll m' steps)
  := atMost_runAll (.of_make? hsize hm hm') hplain

/-- The third request finds `a` only if there is room for two. -/
def crowding : List (MemoStep Nat) :=
  [.compute "a" 1 true none [], .compute "b" 2 true none [], .compute "a" 3 false none [],
    .compute "c" 4 true none [], .compute "d" 5 true (some "no value") [], .get "a"]

theorem larger_does_no_worse_crowding :
  SizeLe (some 1 : Option Int) (some 2)
    ∧ Memo.make? (some 1) = .ok (.empty (some 1) : Memo Nat)
    ∧ Memo.make? (some 2) = .ok (.empty (some 2) : Memo Nat)
    ∧ (∀ step ∈ crowding, step.Plain)
    ∧ (runAll (.empty (some 1)) crowding).map (·.after.keys)
      = [["a"], ["b"], ["b"], ["c"], ["c"], ["c"]]
    ∧ (runAll (.empty (some 2)) crowding).map (·.after.keys)
      = [["a"], ["a", "b"], ["b", "a"], ["a", "c"], ["a", "c"], ["a", "c"]]
    ∧ List.Forall₂ MemoReport.AtMost (runAll (.empty (some 1)) crowding)
      (runAll (.empty (some 2)) crowding)
  := by
  have hsize : SizeLe (some 1 : Option Int) (some 2) := by
    rintro k' ⟨⟩
    exact ⟨1, rfl, by decide⟩
  have hplain : ∀ step ∈ crowding, step.Plain := by simp [crowding, Plain]
  exact ⟨hsize, rfl, rfl, hplain, by decide, by decide, larger_does_no_worse hsize rfl rfl hplain⟩

end MemoStep

end CommitPolicy
