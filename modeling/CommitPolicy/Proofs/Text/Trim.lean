import CommitPolicy.Text.Blank
import Mathlib.Data.List.DropRight
import Mathlib.Tactic.Use

/-!
# Dropping at both ends

`DropsTo p l core` says that `core` is what remains of `l` when the members of a class are dropped
at both ends, as white space is at the ends of a text and blank lines are at the ends of a message.
There is always exactly one such list.
-/

namespace CommitPolicy.Text

variable {α : Type} {p : α → Bool} {l core : List α}

/-- Members of the class are dropped at both ends, and `core` neither starts nor ends with one. -/
structure DropsTo (p : α → Bool) (l core : List α) : Prop where
  exists_eq : ∃ front back, l = front ++ core ++ back ∧ (∀ a ∈ front, p a = true)
    ∧ ∀ a ∈ back, p a = true
  head : ∀ a ∈ core.head?, p a = false
  last : ∀ a ∈ core.getLast?, p a = false

theorem dropsTo_rdropWhile (p : α → Bool) (l : List α) :
  DropsTo p l ((l.dropWhile p).rdropWhile p)
  := by
  constructor
  · use l.takeWhile p, (l.dropWhile p).rtakeWhile p
    refine ⟨?_, ?_, ?_⟩
    · rw [List.append_assoc, List.rdropWhile_append_rtakeWhile, List.takeWhile_append_dropWhile]
    · intro a ha
      apply List.mem_takeWhile_imp ha
    · intro a ha
      apply List.mem_rtakeWhile_imp ha
  · intro a ha
    obtain ⟨tail, htail⟩ := List.rdropWhile_prefix p (l.dropWhile p)
    obtain ⟨rest, hrest⟩ := List.head?_eq_some_iff.mp ha
    have hhead : (l.dropWhile p).head? = some a := by
      rw [← htail, hrest]
      rfl
    have := List.head?_dropWhile_not p l
    rw [hhead] at this
    simpa using this
  · intro a ha
    obtain ⟨hne, rfl⟩ := List.mem_getLast?_eq_getLast ha
    simpa using List.rdropWhile_last_not p _ hne

/-- What remains does not depend on where the members of the class are cut off. -/
theorem DropsTo.rdropWhile_eq (h : DropsTo p l core) :
  (l.dropWhile p).rdropWhile p = core
  := by
  obtain ⟨⟨front, back, rfl, hfront, hback⟩, hhead, hlast⟩ := h
  rw [List.append_assoc, List.dropWhile_append_of_pos hfront]
  cases core with
  | nil =>
      rw [List.nil_append, List.dropWhile_eq_nil_iff.mpr hback]
      apply List.rdropWhile_nil
  | cons a rest =>
      have hkept : (a :: rest).rdropWhile p = a :: rest := by
        rw [List.rdropWhile_eq_self_iff]
        intro hne
        rw [hlast _ (List.getLast?_eq_getLast_of_ne_nil hne)]
        simp
      rw [List.cons_append, List.dropWhile_cons_of_neg (by simp [hhead a rfl]), ← List.cons_append,
        List.rdropWhile, List.reverse_append, List.dropWhile_append_of_pos (by simpa using hback)]
      apply hkept

/-- A list that neither starts nor ends with a member of the class remains as it is. -/
theorem dropsTo_self (hhead : ∀ a ∈ l.head?, p a = false) (hlast : ∀ a ∈ l.getLast?, p a = false) :
  DropsTo p l l
  := by
  constructor
  · use [], []
    simp
  · apply hhead
  · apply hlast

theorem DropsTo.isInfix (h : DropsTo p l core) :
  core <:+: l
  := by
  obtain ⟨⟨front, back, hl, -, -⟩, -, -⟩ := h
  use front, back, hl.symm

/-! ### White space at the ends of a text -/

theorem dropsTo_trim (s : List Char) :
  DropsTo isBlank s (trim s)
  := dropsTo_rdropWhile isBlank s

theorem DropsTo.trim_eq {s core : List Char} (h : DropsTo isBlank s core) :
  trim s = core
  := h.rdropWhile_eq

/-- White space in front is dropped. -/
theorem trimLeft_append_of_blank {front : List Char} (h : ∀ c ∈ front, isBlank c = true)
    (s : List Char) :
  trimLeft (front ++ s) = trimLeft s
  := List.dropWhile_append_of_pos h

/-- Where a character is left, what follows is left, too. -/
theorem trimLeft_append_of_ne_nil {s : List Char} (h : trimLeft s ≠ []) (back : List Char) :
  trimLeft (s ++ back) = trimLeft s ++ back
  := by
  induction s with
  | nil => contradiction
  | cons c s ih =>
      rw [trimLeft, List.dropWhile_cons] at h
      rw [List.cons_append, trimLeft, trimLeft, List.dropWhile_cons, List.dropWhile_cons]
      split
      · next hc =>
        rw [if_pos hc] at h
        apply ih h
      · rfl

end CommitPolicy.Text
