import CommitPolicy.Memo.Basic
import Mathlib.Tactic.Use

/-!
# What a memo holds

Two things that entering, settling, releasing and clearing keep:

* a property of every stored key and value, as long as it holds of what is settled;
* a memo is consistent: no key is in flight twice, or in flight and stored, and the number of
  entries is in bounds.
-/

namespace CommitPolicy.Memo

variable {V : Type} {P : String → V → Prop} {m : Memo V} {key : String} {value : V}

/-! ### Finding a value -/

theorem get?_eq_none_iff :
  m.get? key = none ↔ key ∉ m.keys
  := by
  rw [get?, List.lookup_eq_none_iff, keys, List.mem_map]
  constructor
  · rintro h ⟨e, he, rfl⟩
    simpa using h e he
  · intro h e he
    apply bne_iff_ne.mpr
    rintro rfl
    apply h ⟨e, he, rfl⟩

theorem isSome_get?_iff :
  (m.get? key).isSome = true ↔ key ∈ m.keys
  := by
  rw [Option.isSome_iff_ne_none, ne_eq, get?_eq_none_iff, Decidable.not_not]

theorem mem_entries_of_get? (h : m.get? key = some value) :
  (key, value) ∈ m.entries
  := by
  obtain ⟨above, below, hentries, -⟩ := List.lookup_eq_some_iff.mp h
  simp [hentries]

/-- What a caller finds: a stored value, another caller at work on the key, or nothing. -/
theorem enter_cases (m : Memo V) (key : String) :
  (∃ value, m.get? key = some value ∧ m.enter key
      = (.hit value, { m with entries := m.touch key value, hits := m.hits + 1 }))
    ∨ (m.get? key = none ∧ key ∈ m.inFlight ∧ m.enter key = (.wait, m))
    ∨ (m.get? key = none ∧ key ∉ m.inFlight ∧ m.enter key
      = (.lead, { m with inFlight := key :: m.inFlight, misses := m.misses + 1 }))
  := by
  rw [enter]
  cases hget : m.get? key with
  | some value => simp
  | none => by_cases hkey : key ∈ m.inFlight <;> simp [hkey]

/-- A caller leads if there is neither a value nor another caller at work on the key. -/
theorem of_enter_eq_lead {entered : Memo V} (h : m.enter key = (.lead, entered)) :
  m.get? key = none ∧ key ∉ m.inFlight
    ∧ entered = { m with inFlight := key :: m.inFlight, misses := m.misses + 1 }
  := by
  obtain ⟨_, -, henter⟩ | ⟨-, -, henter⟩ | ⟨hget, hkey, henter⟩ := enter_cases m key
  · rw [henter] at h
    cases h
  · rw [henter] at h
    cases h
  · rw [henter] at h
    use hget, hkey, (Prod.mk.inj h).2.symm

theorem maxSize_enter (m : Memo V) (key : String) :
  (m.enter key).2.maxSize = m.maxSize
  := by
  obtain ⟨value, -, henter⟩ | ⟨-, -, henter⟩ | ⟨-, -, henter⟩ := enter_cases m key
  · rw [henter]
  · rw [henter]
  · rw [henter]

/-! ### A property of every entry -/

/-- The property holds of every stored key and value. -/
def Holds (P : String → V → Prop) (m : Memo V) : Prop := ∀ e ∈ m.entries, P e.1 e.2

theorem eq_empty_of_make? {maxSize : Option Int} (h : make? maxSize = .ok m) :
  m = empty (maxSize.map Int.toNat)
  := by
  unfold make? at h
  split at h
  · apply (Except.ok.inj h).symm
  · split at h
    · cases h
    · apply (Except.ok.inj h).symm

theorem of_make? {maxSize : Option Int} (h : make? maxSize = .ok m) :
  m.entries = [] ∧ m.inFlight = []
  := by
  obtain rfl := eq_empty_of_make? h
  use rfl
  rfl

theorem maxSize_of_make? {n : Int} (h : make? (some n) = .ok m) :
  0 < n ∧ m.maxSize = some n.toNat
  := by
  rw [make?] at h
  split at h
  · cases h
  · next hn =>
    obtain rfl := Except.ok.inj h
    use by omega
    rfl

theorem Holds.of_get? (h : m.Holds P) (hget : m.get? key = some value) :
  P key value
  := h (key, value) (mem_entries_of_get? hget)

theorem enter_of_get?_eq_some (hget : m.get? key = some value) :
  m.enter key
    = (.hit value, { m with entries := m.touch key value, hits := m.hits + 1 })
  := by
  rw [enter, hget]

theorem enter_of_get?_eq_none (hget : m.get? key = none) (hkey : key ∉ m.inFlight) :
  m.enter key = (.lead, { m with inFlight := key :: m.inFlight, misses := m.misses + 1 })
  := by
  rw [enter, hget]
  simp [hkey]

theorem Holds.mem_touch (h : m.Holds P) (hvalue : P key value) :
  ∀ e ∈ m.touch key value, P e.1 e.2
  := by
  intro e he
  rcases List.mem_append.mp he with he | he
  · apply h e (List.mem_filter.mp he).1
  · obtain rfl := List.mem_singleton.mp he
    apply hvalue

theorem mem_put {entries : List (String × V)} {e : String × V} (h : e ∈ put entries key value) :
  e ∈ entries ∨ e = (key, value)
  := by
  unfold put at h
  split at h
  · obtain ⟨e', he', rfl⟩ := List.mem_map.mp h
    split
    · apply Or.inr rfl
    · apply Or.inl he'
  · simpa using h

theorem put_of_not_mem {entries : List (String × V)} (h : key ∉ entries.map (·.1)) :
  put entries key value = entries ++ [(key, value)]
  := by
  rw [put, if_neg]
  rw [Bool.not_eq_true, List.any_eq_false]
  intro e he hkey
  apply h
  rw [← eq_of_beq hkey]
  apply List.mem_map_of_mem he

theorem evict_eq_self {maxSize : Option Nat} {entries : List (String × V)}
    (h : ∀ n, maxSize = some n → entries.length ≤ n) :
  evict maxSize entries = entries
  := by
  cases maxSize with
  | none => rfl
  | some n => rw [evict, if_neg (Nat.not_lt.mpr (h n rfl))]

theorem evict_subset (maxSize : Option Nat) (entries : List (String × V)) :
  evict maxSize entries ⊆ entries
  := by
  unfold evict
  split
  · split
    · apply List.drop_subset
    · apply List.Subset.refl
  · apply List.Subset.refl

theorem Holds.settle (h : m.Holds P) (hvalue : P key value) :
  (m.settle key value).Holds P
  := by
  intro e he
  rcases mem_put (evict_subset m.maxSize _ he) with he | rfl
  · apply h e he
  · apply hvalue

theorem Holds.release (h : m.Holds P) (key : String) :
  (m.release key).Holds P
  := h

theorem Holds.enter (h : m.Holds P) (key : String) :
  (m.enter key).2.Holds P
  := by
  obtain ⟨value, hget, henter⟩ | ⟨-, -, henter⟩ | ⟨-, -, henter⟩ := enter_cases m key
  · rw [henter]
    apply h.mem_touch (h.of_get? hget)
  · rw [henter]
    apply h
  · rw [henter]
    apply h

theorem Holds.clear (m : Memo V) :
  m.clear.Holds P
  := by
  intro e he
  cases he

theorem Holds.imp {Q : String → V → Prop} (h : m.Holds P)
    (hPQ : ∀ key value, P key value → Q key value) :
  m.Holds Q
  := by
  intro e he
  apply hPQ e.1 e.2 (h e he)

/-! ### Keys in flight and the number of entries -/

/-- No key is in flight twice, none is both in flight and stored, and there are not more entries
than can be stored. -/
structure Consistent (m : Memo V) : Prop where
  nodup : m.inFlight.Nodup
  notStored : ∀ key ∈ m.inFlight, key ∉ m.keys
  bounded : ∀ n, m.maxSize = some n → m.entries.length ≤ n

theorem Consistent.of_make? {maxSize : Option Int} (h : make? maxSize = .ok m) :
  m.Consistent
  := by
  obtain ⟨hentries, hflight⟩ := Memo.of_make? h
  constructor
  · simp [hflight]
  · simp [hflight]
  · simp [hentries]

theorem keys_touch_subset (hkey : key ∈ m.keys) :
  (m.touch key value).map (·.1) ⊆ m.keys
  := by
  intro k hk
  obtain ⟨e, he, rfl⟩ := List.mem_map.mp hk
  rcases List.mem_append.mp he with he | he
  · apply List.mem_map_of_mem (List.mem_filter.mp he).1
  · obtain rfl := List.mem_singleton.mp he
    apply hkey

theorem cons_keys_subset_touch (m : Memo V) (key : String) (value : V) :
  key :: m.keys ⊆ (m.touch key value).map (·.1)
  := by
  intro k hk
  by_cases hkey : k = key
  · simp [touch, hkey]
  · simpa [touch, hkey, keys] using hk

theorem length_touch_le (hkey : key ∈ m.keys) :
  (m.touch key value).length ≤ m.entries.length
  := by
  obtain ⟨e, he, rfl⟩ := List.mem_map.mp hkey
  have hlt : (m.entries.filter fun e' => e'.1 != e.1).length < m.entries.length := by
    apply List.length_filter_lt_length_iff_exists.mpr
    use e, he
    simp
  rw [touch, List.length_append, List.length_singleton]
  omega

theorem length_put_le (entries : List (String × V)) (key : String) (value : V) :
  (put entries key value).length ≤ entries.length + 1
  := by
  rw [put]
  split
  · simp
  · simp

theorem length_evict_le {n : Nat} {entries : List (String × V)} (h : entries.length ≤ n + 1) :
  (evict (some n) entries).length ≤ n
  := by
  rw [evict]
  split
  · rw [List.length_drop]
    omega
  · omega

theorem mem_keys_of_settle {k : String} (h : k ∈ (m.settle key value).keys) :
  k ∈ m.keys ∨ k = key
  := by
  obtain ⟨e, he, rfl⟩ := List.mem_map.mp h
  rcases mem_put (evict_subset m.maxSize _ he) with he | rfl
  · apply Or.inl (List.mem_map_of_mem he)
  · apply Or.inr rfl

section Consistent

variable (h : m.Consistent)
include h

theorem Consistent.enter (key : String) :
  (m.enter key).2.Consistent
  := by
  obtain ⟨value, hget, henter⟩ | ⟨-, -, henter⟩ | ⟨hget, hkey, henter⟩ := enter_cases m key
  · have hkey : key ∈ m.keys := List.mem_map_of_mem (mem_entries_of_get? hget)
    rw [henter]
    constructor
    · apply h.nodup
    · intro k hk hmem
      apply h.notStored k hk (keys_touch_subset hkey hmem)
    · intro n hn
      apply Nat.le_trans (length_touch_le hkey) (h.bounded n hn)
  · rw [henter]
    apply h
  · rw [henter]
    constructor
    · apply List.nodup_cons.mpr ⟨hkey, h.nodup⟩
    · intro k hk
      rcases List.mem_cons.mp hk with rfl | hk
      · apply get?_eq_none_iff.mp hget
      · apply h.notStored k hk
    · apply h.bounded

theorem Consistent.settle (key : String) (value : V) :
  (m.settle key value).Consistent
  := by
  constructor
  · apply h.nodup.erase
  · intro k hk hmem
    have hk' := (h.nodup.mem_erase_iff).mp hk
    rcases mem_keys_of_settle hmem with hmem | rfl
    · apply h.notStored k hk'.2 hmem
    · apply hk'.1 rfl
  · intro n hn
    have hlength := Nat.le_trans (length_put_le m.entries key value)
      (Nat.add_le_add_right (h.bounded n hn) 1)
    change (evict m.maxSize (put m.entries key value)).length ≤ n
    rw [show m.maxSize = some n from hn]
    apply length_evict_le hlength

theorem Consistent.release (key : String) :
  (m.release key).Consistent
  := by
  constructor
  · apply h.nodup.erase
  · intro k hk
    apply h.notStored k (List.mem_of_mem_erase hk)
  · apply h.bounded

theorem Consistent.clear :
  m.clear.Consistent
  := by
  constructor
  · apply h.nodup
  · intro k _ hmem
    cases hmem
  · intro n _
    apply Nat.zero_le

end Consistent

end CommitPolicy.Memo
