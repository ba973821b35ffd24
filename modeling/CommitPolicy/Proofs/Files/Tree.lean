import CommitPolicy.Files.Tree
import CommitPolicy.Proofs.Failure
import Mathlib.Tactic.Use

/-!
# Reading a file that was written

Putting a file under some names changes what is found under these names only, and no directory on
the way to them.  So a path at which a file was written leads to the same names afterwards, where
the file is read back.
-/

namespace CommitPolicy

namespace FileTree

variable {t : FileTree} {names other : List String} {e : Entry} {p : Path} {bytes : List UInt8}

/-! ### Entries -/

theorem lookup_map_put (entries : List (List String × Entry)) (names other : List String)
    (e : Entry) :
  (entries.map fun (n, old) => (n, if n = names then e else old)).lookup other
    = (entries.lookup other).map fun old => if other = names then e else old
  := by
  induction entries with
  | nil => rfl
  | cons x entries ih =>
      obtain ⟨n, old⟩ := x
      rw [List.map_cons, List.lookup_cons, List.lookup_cons, ih]
      cases h : other == n with
      | true =>
          obtain rfl := eq_of_beq h
          rfl
      | false => rfl

theorem at?_of_ne_nil (t : FileTree) (h : other ≠ []) :
  t.at? other = t.entries.lookup other
  := by
  rw [at?, List.isEmpty_eq_false_iff.mpr h, if_neg Bool.false_ne_true]

theorem ne_nil_of_at? (h : t.at? names ≠ some .directory) :
  names ≠ []
  := by
  rintro rfl
  apply h rfl

/-- What is found after an entry was put under names other than the root. -/
theorem at?_put (hnames : names ≠ []) (e : Entry) (other : List String) :
  (t.put names e).at? other = if other = names then some e else t.at? other
  := by
  by_cases hroot : other = []
  · subst hroot
    rw [if_neg hnames.symm]
    rfl
  · rw [at?_of_ne_nil _ hroot, at?_of_ne_nil t hroot, put, at?_of_ne_nil t hnames]
    split
    · next hsome =>
      rw [lookup_map_put]
      split
      · next hother =>
        obtain ⟨old, hold⟩ := Option.isSome_iff_exists.mp hsome
        rw [hother, hold]
        rfl
      · apply Option.map_id'
    · next hnone =>
      rw [List.lookup_append]
      split
      · next hother =>
        rw [hother, Option.not_isSome_iff_eq_none.mp hnone, Option.none_or, List.lookup_cons,
          beq_self_eq_true]
      · next hother =>
        rw [List.lookup_cons, beq_eq_false_iff_ne.mpr hother, List.lookup_nil, Option.or_none]

theorem workingDirectory_put (t : FileTree) (names : List String) (e : Entry) :
  (t.put names e).workingDirectory = t.workingDirectory
  := by
  rw [put]
  split
  · rfl
  · rfl

/-! ### Paths -/

/-- The directories on the way are still there when an entry is put in a place that is no
directory. -/
theorem walk_put (hnames : t.at? names ≠ some .directory) (e : Entry)
    {here there rest : List String} (h : t.walk here rest = .ok there) :
  (t.put names e).walk here rest = .ok there
  := by
  induction rest generalizing here with
  | nil => apply h
  | cons name rest ih =>
      have hnames' := ne_nil_of_at? hnames
      rw [walk] at h ⊢
      cases hhere : t.at? here with
      | none =>
          rw [hhere] at h
          cases h
      | some entry =>
          rw [hhere] at h
          cases entry with
          | file bytes => cases h
          | directory =>
              have hne : here ≠ names := by
                rintro rfl
                apply hnames hhere
              rw [at?_put hnames' e, if_neg hne, hhere]
              apply ih h

/-- A file can be written where a path leads to, if there is no directory. -/
theorem write_of_locate (hlocate : t.locate p = .ok names)
    (hnames : t.at? names ≠ some .directory) (bytes : List UInt8) :
  t.write p bytes = .ok (t.put names (.file bytes))
  := by
  rw [write]
  apply bind_eq_ok hlocate
  split
  · next hdirectory => cases hnames hdirectory
  · rfl

/-- A file is only written where there is no directory. -/
theorem exists_of_write {after : FileTree} (h : t.write p bytes = .ok after) :
  ∃ names, t.locate p = .ok names ∧ t.at? names ≠ some .directory
  := by
  rw [write] at h
  cases hlocate : t.locate p with
  | error f =>
      rw [hlocate] at h
      cases h
  | ok names =>
      use names, rfl
      intro hdirectory
      simp only [hlocate, bind, Except.bind, hdirectory] at h
      cases h

/-- The file is read back. -/
theorem read_put (hlocate : t.locate p = .ok names) (hnames : t.at? names ≠ some .directory)
    (bytes : List UInt8) :
  (t.put names (.file bytes)).isFile p = true
    ∧ (t.put names (.file bytes)).read p = .ok bytes
  := by
  have hstays : (t.put names (.file bytes)).locate p = .ok names := by
    rw [locate, workingDirectory_put]
    apply walk_put hnames _ hlocate
  have hfile : (t.put names (.file bytes)).at? names = some (.file bytes) := by
    rw [at?_put (ne_nil_of_at? hnames), if_pos rfl]
  constructor
  · have hfind : (t.put names (.file bytes)).find? p = some (.file bytes) := by
      rw [find?, hstays]
      apply hfile
    rw [isFile, hfind]
  · rw [read]
    apply bind_eq_ok hstays
    rw [hfile]

/-- Directories can be made on the way to a path, and then some file can be written there. -/
def CanWrite (t : FileTree) (p : Path) : Prop :=
  ∃ made bytes after, t.makeParents p = .ok made ∧ made.write p bytes = .ok after

end FileTree

end CommitPolicy
