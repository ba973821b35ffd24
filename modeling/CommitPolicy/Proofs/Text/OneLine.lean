import CommitPolicy.Proofs.Text.Lines
import CommitPolicy.Proofs.Text.Numerals

/-!
# Texts of one line

A text is of one line if it holds no line feed.  Such texts stay so when they are appended, joined
or cut, and numerals are such texts.  Where each of several texts of one line is ended by a line
feed, there are as many line feeds as texts.
-/

namespace CommitPolicy.Text

/-- The text holds no line feed. -/
def OneLine (s : String) : Prop := '\n' ∉ s.toList

instance (s : String) : Decidable (OneLine s) := inferInstanceAs (Decidable ('\n' ∉ s.toList))

theorem oneLine_ofList {s : List Char} :
  OneLine (String.ofList s) ↔ '\n' ∉ s
  := by
  rw [OneLine, String.toList_ofList]

/-- A literal is of one line if the list of its characters is. -/
theorem OneLine.literal {s : List Char} (h : '\n' ∉ s) :
  OneLine (String.ofList s)
  := oneLine_ofList.mpr h

theorem OneLine.append {s t : String} (hs : OneLine s) (ht : OneLine t) :
  OneLine (s ++ t)
  := by
  rw [OneLine, String.toList_append, List.mem_append]
  rintro (h | h)
  · exact hs h
  · exact ht h

/-- A text of one line between two literals. -/
theorem OneLine.between {s : String} (hs : OneLine s) {front back : List Char}
    (hfront : '\n' ∉ front) (hback : '\n' ∉ back) :
  OneLine (String.ofList front ++ s ++ String.ofList back)
  := ((literal hfront).append hs).append (literal hback)

theorem oneLine_joinWith {sep : String} {items : List String} (hsep : OneLine sep)
    (hitems : ∀ s ∈ items, OneLine s) :
  OneLine (joinWith sep items)
  := by
  fun_induction joinWith sep items with
  | case1 => decide
  | case2 s => apply hitems s List.mem_cons_self
  | case3 s rest hrest ih =>
      rw [List.forall_mem_cons] at hitems
      apply (hitems.1.append hsep).append (ih hitems.2)

theorem oneLine_natText (n : Nat) :
  OneLine (toString n)
  := by
  intro h
  cases isDigit_of_mem_natText h

theorem oneLine_intText (n : Int) :
  OneLine (toString n)
  := by
  intro h
  rcases isDigit_of_mem_intText h with h | h
  · cases h
  · cases h

theorem oneLine_wholeText (x : Float) :
  OneLine (wholeText x)
  := by
  unfold wholeText
  split
  · decide
  · split
    · split
      · decide
      · decide
    · apply OneLine.append
      · split
        · decide
        · decide
      · apply oneLine_natText

theorem OneLine.strip {s : String} (h : OneLine s) :
  OneLine (Text.strip s)
  := by
  rw [Text.strip, oneLine_ofList]
  intro hmem
  apply h ((dropsTo_trim s.toList).isInfix.subset hmem)

/-! ### Lines that are ended by line feeds -/

theorem count_flatMap {lines : List (List Char)} (h : ∀ line ∈ lines, '\n' ∉ line) :
  (lines.flatMap (· ++ ['\n'])).count '\n' = lines.length
  := by
  induction lines with
  | nil => rfl
  | cons line rest ih =>
      rw [List.forall_mem_cons] at h
      rw [List.flatMap_cons, List.count_append, List.count_append,
        List.count_eq_zero_of_not_mem h.1, ih h.2, List.length_cons, List.count_singleton_self]
      omega

end CommitPolicy.Text
