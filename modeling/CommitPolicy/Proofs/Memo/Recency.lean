import CommitPolicy.Proofs.Memo.Events
import Mathlib.Data.List.Dedup

/-!
# What a memo holds is what was used last

`Memo.Recounts` reads the stored keys, their values and the counters off the events since the memo
was cleared: the stored keys are the ones that were used last, as many as the memo can hold, in the
order of their last use.  It is shown that

* every event keeps this;
* so it holds after every step of a run, also after the steps inside of computations;
* a step that neither finds nor stores a value leaves the entries as the steps inside of it do.
-/

namespace CommitPolicy

open MemoEvent

/-! ### The end of a list -/

section Newest

variable {α : Type}

/-- The last elements of a list, as many as can be stored. -/
def newest (maxSize : Option Nat) (l : List α) : List α := maxSize.elim l l.rtake

theorem newest_nil (maxSize : Option Nat) :
  newest maxSize ([] : List α) = []
  := by
  cases maxSize with
  | none => rfl
  | some n => apply List.rtake_nil

theorem newest_eq_self {maxSize : Option Nat} {l : List α}
    (h : ∀ n, maxSize = some n → l.length ≤ n) :
  newest maxSize l = l
  := by
  cases maxSize with
  | none => rfl
  | some n =>
      have hlength := h n rfl
      rw [newest, Option.elim_some, List.rtake, Nat.sub_eq_zero_of_le hlength, List.drop_zero]

theorem newest_append {n : Nat} {l : List α} (above : List α) (h : n ≤ l.length) :
  newest (some n) (above ++ l) = newest (some n) l
  := by
  rw [newest, newest, Option.elim_some, Option.elim_some, List.rtake, List.rtake,
    List.length_append, List.drop_append, List.drop_eq_nil_of_le (by omega), List.nil_append]
  congr 1
  omega

/-- Elements in front of the newest ones are left out only if there is no room for more. -/
theorem exists_append_newest (maxSize : Option Nat) (l : List α) :
  ∃ above, l = above ++ newest maxSize l
    ∧ (above = [] ∨ maxSize = some (newest maxSize l).length)
  := by
  cases maxSize with
  | none => exact ⟨[], rfl, .inl rfl⟩
  | some n =>
      use l.take (l.length - n)
      constructor
      · apply (List.take_append_drop _ l).symm
      · rcases Nat.le_total l.length n with hle | hle
        · apply Or.inl
          rw [Nat.sub_eq_zero_of_le hle, List.take_zero]
        · apply Or.inr
          rw [newest, Option.elim_some, List.rtake, List.length_drop]
          congr 1
          omega

theorem map_newest {β : Type} (f : α → β) (maxSize : Option Nat) (l : List α) :
  (newest maxSize l).map f = newest maxSize (l.map f)
  := by
  cases maxSize with
  | none => rfl
  | some n => simp [newest, List.rtake]

theorem newest_subset (maxSize : Option Nat) (l : List α) :
  newest maxSize l ⊆ l
  := by
  cases maxSize with
  | none => apply List.Subset.refl
  | some n => apply List.drop_subset

theorem length_newest_le (n : Nat) (l : List α) :
  (newest (some n) l).length ≤ n
  := by
  rw [newest, Option.elim_some, List.rtake, List.length_drop]
  omega

variable [BEq α] [LawfulBEq α] {maxSize : Option Nat} {l : List α} {a : α}

/-- Nothing is lost when an element is moved to the end: it leaves one place and takes another. -/
theorem length_filter_concat (hl : l.Nodup) (ha : a ∈ l) :
  (l.filter (· != a) ++ [a]).length = l.length
  := by
  rw [← hl.erase_eq_filter, List.length_append, List.length_erase_of_mem ha, List.length_singleton]
  have := List.length_pos_of_mem ha
  omega

theorem filter_bne_eq_self (ha : a ∉ l) :
  l.filter (· != a) = l
  := by
  rw [List.filter_eq_self]
  intro b hb
  apply bne_iff_ne.mpr
  rintro rfl
  apply ha hb

/-- An element of the newest ones is moved to the end. -/
theorem newest_filter_of_mem (hl : l.Nodup) (ha : a ∈ newest maxSize l) :
  newest maxSize (l.filter (· != a) ++ [a]) = (newest maxSize l).filter (· != a) ++ [a]
  := by
  obtain ⟨above, heq, hroom⟩ := exists_append_newest maxSize l
  generalize hkept : newest maxSize l = kept at ha heq hroom ⊢
  have hnodup : (above ++ kept).Nodup := heq ▸ hl
  have habove : above.filter (· != a) = above := by
    apply filter_bne_eq_self
    intro hmem
    apply (List.nodup_append.mp hnodup).2.2 a hmem a ha rfl
  have hlength := length_filter_concat (List.nodup_append.mp hnodup).2.1 ha
  have hfits : newest maxSize (kept.filter (· != a) ++ [a]) = kept.filter (· != a) ++ [a] := by
    apply newest_eq_self
    rintro n rfl
    rw [hlength, ← hkept]
    apply length_newest_le
  rw [heq, List.filter_append, habove, List.append_assoc]
  rcases hroom with rfl | rfl
  · apply hfits
  · rw [newest_append above (Nat.le_of_eq hlength.symm)]
    apply hfits

/-- An element that is not among the newest ones is put at the end, whether or not it is one of the
others. -/
theorem newest_filter_of_not_mem (ha : a ∉ newest maxSize l) :
  newest maxSize (l.filter (· != a) ++ [a]) = newest maxSize (newest maxSize l ++ [a])
  := by
  obtain ⟨above, heq, hroom⟩ := exists_append_newest maxSize l
  generalize newest maxSize l = kept at ha heq hroom ⊢
  rw [heq, List.filter_append, filter_bne_eq_self ha, List.append_assoc]
  rcases hroom with rfl | rfl
  · rfl
  · apply newest_append
    simp

end Newest

theorem dedup_concat (l : List String) (a : String) :
  (l ++ [a]).dedup = l.dedup.filter (· != a) ++ [a]
  := by
  induction l with
  | nil => simp
  | cons b l ih =>
      rw [List.cons_append]
      by_cases hb : b ∈ l
      · rw [List.dedup_cons_of_mem (List.mem_append_left _ hb), List.dedup_cons_of_mem hb, ih]
      · rw [List.dedup_cons_of_notMem hb]
        by_cases hba : b = a
        · subst hba
          rw [List.dedup_cons_of_mem (by simp), ih]
          simp
        · rw [List.dedup_cons_of_notMem (by simp [hb, hba]), ih]
          simp [hba]

/-! ### A memo and its past -/

namespace Memo

variable {V : Type} {m : Memo V} {maxSize : Option Nat} {past : List (MemoEvent V)} {key : String}
  {value : V}

/-- The keys that were used, without repetitions, in the order of their last use. -/
def usedKeys (events : List (MemoEvent V)) : List String := (events.filterMap used?).dedup

/-- The value that was stored last under a key. -/
def latest? (events : List (MemoEvent V)) (key : String) : Option V :=
  (events.filterMap stored?).reverse.lookup key

/-- The memo is as the events tell that happened since it was cleared: the keys that are stored are
the ones that were used last, least recently used first, each one with the value that was stored
last under it, and the counters say how often values were found and computations started. -/
structure Recounts (m : Memo V) (maxSize : Option Nat) (past : List (MemoEvent V)) : Prop where
  size : m.maxSize = maxSize
  keys : m.keys = newest maxSize (usedKeys (sinceCleared past))
  values : ∀ e ∈ m.entries, latest? (sinceCleared past) e.1 = some e.2
  hits : m.hits = (sinceCleared past).countP isFound
  misses : m.misses = (sinceCleared past).countP isStarted

theorem nodup_usedKeys (events : List (MemoEvent V)) :
  (usedKeys events).Nodup
  := List.nodup_dedup _

theorem usedKeys_concat {e : MemoEvent V} (he : e.used? = some key) (events : List (MemoEvent V)) :
  usedKeys (events ++ [e]) = (usedKeys events).filter (· != key) ++ [key]
  := by
  rw [usedKeys, List.filterMap_append, List.filterMap_cons_some he, List.filterMap_nil,
    dedup_concat]
  rfl

theorem latest?_concat {e : MemoEvent V} (he : e.stored? = none) (events : List (MemoEvent V))
    (key : String) :
  latest? (events ++ [e]) key = latest? events key
  := by
  rw [latest?, List.filterMap_append, List.filterMap_cons_none he, List.filterMap_nil,
    List.append_nil]
  rfl

theorem latest?_stored (events : List (MemoEvent V)) (key k : String) (value : V) :
  latest? (events ++ [.stored key value]) k = if k = key then some value else latest? events k
  := by
  rw [latest?, List.filterMap_append, List.reverse_append]
  by_cases hk : k = key
  · simp [stored?, hk]
  · simp [stored?, hk, latest?, List.lookup_cons, beq_eq_false_iff_ne.mpr hk]

theorem evict_eq_newest {maxSize : Option Nat} {entries : List (String × V)}
    (h : ∀ n, maxSize = some n → entries.length ≤ n + 1) :
  evict maxSize entries = newest maxSize entries
  := by
  cases maxSize with
  | none => rfl
  | some n =>
      have hlength := h n rfl
      rw [evict, newest, Option.elim_some, List.rtake]
      split
      · congr 1
        omega
      · rw [Nat.sub_eq_zero_of_le (by omega), List.drop_zero]

/-- The key of an entry that is used becomes the most recent one. -/
theorem keys_touch (m : Memo V) (key : String) (value : V) :
  (m.touch key value).map (·.1) = m.keys.filter (· != key) ++ [key]
  := by
  rw [touch, List.map_append, keys, List.filter_map]
  rfl

section Settle

variable (hroom : ∀ n, m.maxSize = some n → m.entries.length ≤ n) (hkey : key ∉ m.keys)
include hroom hkey

/-- A value is stored under a new key as the most recent entry. -/
theorem entries_settle (value : V) :
  (m.settle key value).entries = newest m.maxSize (m.entries ++ [(key, value)])
  := by
  change evict m.maxSize (put m.entries key value) = _
  rw [put_of_not_mem hkey]
  apply evict_eq_newest
  intro n hn
  rw [List.length_append]
  apply Nat.add_le_add_right (hroom n hn)

theorem keys_settle (value : V) :
  (m.settle key value).keys = newest m.maxSize (m.keys ++ [key])
  := by
  rw [keys, entries_settle hroom hkey, map_newest, List.map_append]
  rfl

end Settle

/-! ### Every event keeps it -/

theorem Recounts.of_make? {n : Option Int} (hm : make? n = .ok m) :
  m.Recounts (n.map Int.toNat) []
  := by
  obtain rfl := eq_empty_of_make? hm
  constructor
  · rfl
  · apply (newest_nil _).symm
  · rintro e ⟨⟩
  · rfl
  · rfl

theorem Recounts.clear (hsize : m.maxSize = maxSize) (past : List (MemoEvent V)) :
  m.clear.Recounts maxSize (past ++ [.cleared])
  := by
  have hpast := sinceCleared_cleared past
  constructor
  · apply hsize
  · rw [hpast]
    apply (newest_nil _).symm
  · rintro e ⟨⟩
  · rw [hpast]
    rfl
  · rw [hpast]
    rfl

section Recounts

variable (h : m.Recounts maxSize past)
include h

/-- Neither the entries nor the counters depend on the keys in flight. -/
theorem Recounts.release (key : String) :
  (m.release key).Recounts maxSize past
  := ⟨h.size, h.keys, h.values, h.hits, h.misses⟩

theorem Recounts.lead (key : String) :
  Recounts { m with inFlight := key :: m.inFlight, misses := m.misses + 1 }
    maxSize (past ++ [.started key])
  := by
  have hpast : sinceCleared (past ++ [.started key]) = sinceCleared past ++ [.started key] :=
    sinceCleared_concat rfl past
  constructor
  · apply h.size
  · rw [hpast, usedKeys, List.filterMap_append, List.filterMap_cons_none rfl, List.filterMap_nil,
      List.append_nil]
    apply h.keys
  · rw [hpast]
    intro e he
    rw [latest?_concat rfl]
    apply h.values e he
  · rw [hpast, List.countP_append, ← h.hits]
    rfl
  · rw [hpast, List.countP_append, ← h.misses]
    rfl

theorem Recounts.hit (hget : m.get? key = some value) :
  Recounts { m with entries := m.touch key value, hits := m.hits + 1 } maxSize
    (past ++ [.found key])
  := by
  have hpast : sinceCleared (past ++ [.found key]) = sinceCleared past ++ [.found key] :=
    sinceCleared_concat rfl past
  have hmem := mem_entries_of_get? hget
  constructor
  · apply h.size
  · have hkey : key ∈ newest maxSize (usedKeys (sinceCleared past)) := by
      rw [← h.keys]
      apply List.mem_map_of_mem hmem
    rw [hpast, usedKeys_concat rfl]
    change (m.touch key value).map (·.1) = newest maxSize _
    rw [newest_filter_of_mem (nodup_usedKeys _) hkey, ← h.keys, keys_touch]
  · rw [hpast]
    intro e he
    rw [latest?_concat rfl]
    rcases List.mem_append.mp he with he | he
    · apply h.values e (List.mem_filter.mp he).1
    · obtain rfl := List.mem_singleton.mp he
      apply h.values _ hmem
  · rw [hpast, List.countP_append, ← h.hits]
    rfl
  · rw [hpast, List.countP_append, ← h.misses]
    rfl

/-- A value is stored under a key that is not stored: the key becomes the most recent one. -/
theorem Recounts.settle (hm : m.Consistent) (hkey : key ∉ m.keys) :
  (m.settle key value).Recounts maxSize (past ++ [.stored key value])
  := by
  have hpast : sinceCleared (past ++ [.stored key value])
      = sinceCleared past ++ [.stored key value] := sinceCleared_concat rfl past
  constructor
  · apply h.size
  · rw [keys_settle hm.bounded hkey, h.size, hpast, usedKeys_concat rfl, h.keys]
    apply (newest_filter_of_not_mem (h.keys ▸ hkey)).symm
  · rw [hpast, entries_settle hm.bounded hkey]
    intro e he
    rw [latest?_stored]
    rcases List.mem_append.mp (newest_subset _ _ he) with hmem | hmem
    · have hne : e.1 ≠ key := by
        rintro rfl
        apply hkey (List.mem_map_of_mem hmem)
      rw [if_neg hne, h.values e hmem]
    · obtain rfl := List.mem_singleton.mp hmem
      rw [if_pos rfl]
  · rw [hpast, List.countP_append]
    apply h.hits
  · rw [hpast, List.countP_append]
    apply h.misses

end Recounts

end Memo

/-! ### Steps -/

namespace MemoStep

open SharedMemo

variable {V : Type} {m entered : Memo V} {maxSize : Option Nat} {past : List (MemoEvent V)}

theorem run_compute_of_lead {key : String} (h : m.enter key = (.lead, entered)) (value : V)
    (keep : Bool) (fault : Option String) (inner : List (MemoStep V)) :
  run m (.compute key value keep fault inner)
    = .computed true (conclude (lastOf entered (runAll entered inner)) key value keep fault).1
      (runAll entered inner)
      (conclude (lastOf entered (runAll entered inner)) key value keep fault).2
  := by
  rw [run, h]

mutual

/-- A step leaves the keys in flight as they were: a key that it leads is given back. -/
theorem inFlight_run (m : Memo V) (step : MemoStep V) :
  (run m step).after.inFlight = m.inFlight
  := by
  cases step with
  | compute key value keep fault inner =>
      obtain ⟨stored, -, henter⟩ | ⟨-, -, henter⟩ | ⟨-, -, henter⟩ := Memo.enter_cases m key
      · rw [run, henter]
        rfl
      · rw [run, henter]
        rfl
      · rw [run_compute_of_lead henter, MemoReport.after, (ends_conclude ..).inFlight_eq,
          inFlight_runAll]
        apply List.erase_cons_head
  | get key => rfl
  | contains key => rfl
  | clear => rfl

theorem inFlight_runAll (m : Memo V) (steps : List (MemoStep V)) :
  (lastOf m (runAll m steps)).inFlight = m.inFlight
  := by
  cases steps with
  | nil => rfl
  | cons step rest => rw [runAll, lastOf_cons, inFlight_runAll, inFlight_run]

end

/-- A computation ends with its value stored, which was not stored before, or with the entries as
they were. -/
theorem recounts_conclude (h : m.Recounts maxSize past) (hm : m.Consistent) {key : String}
    (hkey : key ∈ m.inFlight) (value : V) (keep : Bool) (fault : Option String) :
  (conclude m key value keep fault).2.Recounts maxSize
    (past ++ endEvents key keep (conclude m key value keep fault).1)
  := by
  cases fault with
  | some text =>
      rw [conclude, endEvents, List.append_nil]
      apply h.release
  | none =>
      cases keep with
      | true => apply h.settle hm (hm.notStored key hkey)
      | false =>
          have hend : endEvents key false (conclude m key value false none).1 = [] := rfl
          rw [hend, List.append_nil]
          apply h.release

/-- A request can be let in next. -/
theorem exists_reachable_enter {s : SharedMemo V} (hs : Reachable (fun _ _ => True) m s)
    (key : String) (value : V) (keep : Bool) :
  ∃ t, Reachable (fun _ _ => True) m t ∧ t.memo = (s.memo.enter key).2
  := by
  obtain ⟨caller, called, -, hlater⟩ :=
    hs.exists_letIn (r := request key value keep) fun _ => trivial
  use called.letIn caller (request key value keep) (s.memo.enter key), hlater.reachable hs
  apply memo_letIn

mutual

/-- The memo recounts the events after a step and after each step inside of it. -/
theorem recounts_run {n : Option Int} (hm : Memo.make? n = .ok m) {s : SharedMemo V}
    (hs : Reachable (fun _ _ => True) m s) (step : MemoStep V) {past : List (MemoEvent V)}
    (h : s.memo.Recounts maxSize past) :
  (∀ x ∈ momentsInside past step (run s.memo step), x.2.Recounts maxSize x.1)
    ∧ (run s.memo step).after.Recounts maxSize (past ++ events step (run s.memo step))
  := by
  cases step with
  | compute key value keep fault inner =>
      obtain ⟨stored, hget, henter⟩ | ⟨-, -, henter⟩ | ⟨-, -, henter⟩ :=
        Memo.enter_cases s.memo key
      · rw [run, henter]
        simp only [momentsInside, moments_nil]
        exact ⟨nofun, h.hit hget⟩
      · rw [run, henter]
        simp only [momentsInside, moments_nil, events, List.append_nil]
        exact ⟨nofun, h⟩
      · obtain ⟨t, ht, hmemo⟩ := exists_reachable_enter hs key value keep
        rw [henter] at hmemo
        have hlead : t.memo.Recounts maxSize (past ++ [.started key]) := by
          rw [hmemo]
          apply h.lead
        obtain ⟨hinside, hlast⟩ := recounts_runAll hm ht inner hlead
        -- The inner steps leave the key in flight, so the value is stored under a new key.
        have hflight : key ∈ (lastOf t.memo (runAll t.memo inner)).inFlight := by
          rw [inFlight_runAll, hmemo]
          apply List.mem_cons_self
        have hconsistent := consistent_runAll hm (fun _ _ => trivial) ht inner
        have hend := recounts_conclude hlast hconsistent hflight value keep fault
        rw [List.append_assoc, List.append_assoc] at hend
        have hrun : s.memo.enter key = (.lead, t.memo) := by rw [henter, hmemo]
        rw [run_compute_of_lead hrun]
        use hinside
        apply hend
  | get key =>
      refine ⟨nofun, ?_⟩
      change s.memo.Recounts maxSize (past ++ [])
      rw [List.append_nil]
      apply h
  | contains key =>
      refine ⟨nofun, ?_⟩
      change s.memo.Recounts maxSize (past ++ [])
      rw [List.append_nil]
      apply h
  | clear => exact ⟨nofun, .clear h.size past⟩

theorem recounts_runAll {n : Option Int} (hm : Memo.make? n = .ok m) {s : SharedMemo V}
    (hs : Reachable (fun _ _ => True) m s) (steps : List (MemoStep V)) {past : List (MemoEvent V)}
    (h : s.memo.Recounts maxSize past) :
  (∀ x ∈ moments past steps (runAll s.memo steps), x.2.Recounts maxSize x.1)
    ∧ (lastOf s.memo (runAll s.memo steps)).Recounts maxSize
      (past ++ eventsAll steps (runAll s.memo steps))
  := by
  cases steps with
  | nil =>
      refine ⟨nofun, ?_⟩
      change s.memo.Recounts maxSize (past ++ [])
      rw [List.append_nil]
      apply h
  | cons step rest =>
      obtain ⟨hinside, hstep⟩ := recounts_run hm hs step h
      obtain ⟨_, t, -, ht, hmemo, -⟩ := exists_later_run (fun _ _ => trivial) s hs step
      rw [← hmemo] at hstep
      obtain ⟨hrest, hlast⟩ := recounts_runAll hm (ht.reachable hs) rest hstep
      rw [hmemo] at hrest hlast hstep
      rw [runAll, lastOf_cons, eventsAll, ← List.append_assoc]
      refine ⟨?_, hlast⟩
      intro x hx
      rcases List.mem_append.mp hx with hx | hx
      · apply hinside x hx
      · rcases List.mem_cons.mp hx with rfl | hx
        · apply hstep
        · apply hrest x hx

end

theorem entries_lastOf {m' : Memo V} (h : m'.entries = m.entries) (reports : List (MemoReport V)) :
  (lastOf m' reports).entries = (lastOf m reports).entries
  := by
  cases reports with
  | nil => apply h
  | cons report rest => rw [lastOf_cons, lastOf_cons]

/-- A step that by itself neither finds nor stores a value leaves the entries as the steps inside of
it do. -/
theorem Passes.entries_after {step : MemoStep V} (h : Passes step (run m step)) :
  (run m step).after.entries = (lastOf m (run m step).inside).entries
  := by
  cases step with
  | compute key value keep fault inner =>
      obtain ⟨stored, -, henter⟩ | ⟨-, -, henter⟩ | ⟨-, -, henter⟩ := Memo.enter_cases m key
      · rw [run, henter] at h
        cases h
      · rw [run, henter]
        rfl
      · have hlast : ∀ reports,
            (lastOf (m.enter key).2 reports).entries = (lastOf m reports).entries := by
          apply entries_lastOf
          rw [henter]
        rw [henter] at hlast
        rw [run_compute_of_lead henter] at h ⊢
        cases fault with
        | some text => apply hlast
        | none =>
            cases h with
            | notKept => apply hlast
  | get key => rfl
  | contains key => rfl
  | clear => cases h

/-- Whatever steps are taken on a new memo, after every one of them, also after those inside of
computations, the memo holds the keys that were used last since it was cleared, as many as it can
hold and in the order of their last use, each with the value that was stored last under it; and it
has counted how often values were found and how many computations were started.  A step that by
itself neither finds nor stores a value changes neither the entries nor their order. -/
theorem holds_last_used {n : Option Int} (hm : Memo.make? n = .ok m) (steps : List (MemoStep V)) :
  (∀ x ∈ moments [] steps (runAll m steps), x.2.Recounts (n.map Int.toNat) x.1)
    ∧ ∀ (m' : Memo V) (step : MemoStep V), Passes step (run m' step) →
      (run m' step).after.entries = (lastOf m' (run m' step).inside).entries
  := by
  constructor
  · have hstart : Reachable (fun _ _ => True) m (start m) := .refl
    apply (recounts_runAll hm hstart steps (.of_make? hm)).1
  · intro m' step hpasses
    apply hpasses.entries_after

/-- While the value of `a` is computed, `b` is stored, the memo is cleared, and `c` is stored after
a request for `a` inside of its computation was refused. -/
def nested : List (MemoStep Nat) :=
  [.compute "a" 1 true none
      [.compute "b" 2 true none [], .clear, .compute "c" 3 true none [.compute "a" 0 true none []]],
    .compute "c" 0 true none [], .compute "d" 4 true none []]

/-- There is room for two: `a` is given up for `d` because `c` was found after `a` was stored.  The
request for `a` inside of the computation of `c` changes nothing. -/
theorem holds_last_used_nested :
  Memo.make? (some 2) = .ok (.empty (some 2) : Memo Nat)
    ∧ (∃ x ∈ moments [] nested (runAll (.empty (some 2)) nested),
      x.1.getLast?.bind MemoEvent.used? = some "d" ∧ x.2.keys = ["c", "d"]
        ∧ x.2.hits = 1 ∧ x.2.misses = 2)
    ∧ Passes (.compute "a" 0 true none [])
      (run ⟨some 2, [], ["c", "a"], 0, 1⟩ (.compute "a" 0 true none []))
    ∧ (run ⟨some 2, [], ["c", "a"], 0, 1⟩ (.compute "a" 0 true none [])).after.entries = []
  := by
  have hm : Memo.make? (some 2) = .ok (.empty (some 2) : Memo Nat) := rfl
  have hlength : 6 < (moments [] nested (runAll (.empty (some 2)) nested)).length := by decide
  have hpasses : Passes (.compute "a" 0 true none [])
      (run ⟨some 2, [], ["c", "a"], 0, 1⟩ (.compute "a" 0 true none [])) := .waited
  obtain ⟨hmoments, hentries⟩ := holds_last_used hm nested
  have hlast := hmoments _ (List.getElem_mem hlength)
  refine ⟨hm, ⟨_, List.getElem_mem hlength, rfl, ?_, ?_, ?_⟩, hpasses, hentries _ _ hpasses⟩
  · rw [hlast.keys]
    change newest (some 2) ["c", "a", "c", "d"].dedup = ["c", "d"]
    decide
  · rw [hlast.hits]
    rfl
  · rw [hlast.misses]
    rfl

end MemoStep

end CommitPolicy
