import CommitPolicy.Yaml.Document
import CommitPolicy.Yaml.Writer

/-!
# Documents that are read back as they were written

Whether a document is read back as the entries that it was written from can be tested by reading it,
for entries of truth values, integers, texts, lists and mappings.
-/

namespace CommitPolicy

/-! ### Plain values -/

namespace Value

mutual

/-- Whether two values are the same, made of truth values, integers, texts, lists and mappings. -/
def same : Value → Value → Bool
  | bool b, bool b' => b == b'
  | int n, int n' => n == n'
  | text s, text s' => s == s'
  | list items, list items' => sameItems items items'
  | map entries, map entries' => sameEntries entries entries'
  | _, _ => false

/-- Whether two lists consist of the same values. -/
def sameItems : List Value → List Value → Bool
  | [], [] => true
  | v :: rest, v' :: rest' => same v v' && sameItems rest rest'
  | _, _ => false

/-- Whether two lists consist of the same keys and values. -/
def sameEntries : List (Value × Value) → List (Value × Value) → Bool
  | [], [] => true
  | (k, v) :: rest, (k', v') :: rest' => same k k' && same v v' && sameEntries rest rest'
  | _, _ => false

end

mutual

theorem eq_of_same {v w : Value} (h : v.same w = true) :
  v = w
  := by
  cases v <;> cases w <;> first | cases h | skip
  case bool.bool => rw [eq_of_beq h]
  case int.int => rw [eq_of_beq h]
  case text.text => rw [eq_of_beq h]
  case list.list => rw [eq_of_sameItems h]
  case map.map => rw [eq_of_sameEntries h]

theorem eq_of_sameItems {l m : List Value} (h : sameItems l m = true) :
  l = m
  := by
  match l, m with
  | [], [] => rfl
  | v :: l, w :: m =>
      obtain ⟨hv, hl⟩ := Bool.and_eq_true_iff.mp h
      rw [eq_of_same hv, eq_of_sameItems hl]

theorem eq_of_sameEntries {l m : List (Value × Value)} (h : sameEntries l m = true) :
  l = m
  := by
  match l, m with
  | [], [] => rfl
  | (k, v) :: l, (k', w) :: m =>
      obtain ⟨hkv, hl⟩ := Bool.and_eq_true_iff.mp h
      obtain ⟨hk, hv⟩ := Bool.and_eq_true_iff.mp hkv
      rw [eq_of_same hk, eq_of_same hv, eq_of_sameEntries hl]

end

end Value

/-! ### Documents -/

namespace Yaml

variable [ReadingLimits] {path : String} {entries : List (Value × Value)}

/-- Reading inverts writing on a document with the given entries. -/
def Restores (path : String) (entries : List (Value × Value)) : Prop :=
  readDocument path (writeMapping entries) = .ok (.map entries)

/-- Reads the document with the given entries and compares. -/
def restores (path : String) (entries : List (Value × Value)) : Bool :=
  match readDocument path (writeMapping entries) with
  | .ok v => v.same (.map entries)
  | .error _ => false

theorem Restores.of_test (h : restores path entries = true) :
  Restores path entries
  := by
  unfold restores at h
  split at h
  · next v hv => rw [Restores, hv, Value.eq_of_same h]
  · cases h

end Yaml

end CommitPolicy
