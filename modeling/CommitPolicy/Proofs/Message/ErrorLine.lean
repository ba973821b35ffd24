import CommitPolicy.Proofs.Message.Grammar
import CommitPolicy.Proofs.Text.Newlines

/-!
# The line of a grammar fault

A parse error counts lines from the first one that is not blank, as those above it are dropped
before the grammar is looked at.  It is shown that

* every line of the message stands in the text as it was given, so many lines further down as blank
  lines stand above the message;
* the error gives the number of the line at fault exactly if the text does not start with a blank
  line.
-/

namespace CommitPolicy

open Text

/-! ### Numbers of lines -/

namespace Commit

/-- How many blank lines stand above the first line that is not blank. -/
def blankAbove (raw : String) : Nat :=
  (splitLines raw.toList).findIdx fun line => !isBlankLine line

end Commit

/-- The number of the line at fault, counted from one in the text as it was given: the first line
that is not blank if it is no header, and the next one if that should be blank. -/
def ParseError.lineIn (raw : String) : ParseError → Option Nat
  | .emptyMessage => none
  | .malformedHeader _ => some (Commit.blankAbove raw + 1)
  | .missingBodySeparator => some (Commit.blankAbove raw + 2)

namespace Commit

theorem blankAbove_eq (raw : String) :
  blankAbove raw = (splitLines (unixNewlines raw.toList)).findIdx fun line => !isBlankLine line
  := by
  have hmap : ∀ lines : List (List Char),
      lines.findIdx (fun line => !isBlankLine line) = (lines.map isBlankLine).findIdx (!·) := by
    intro lines
    rw [List.findIdx_map]
    rfl
  rw [blankAbove, hmap, hmap, map_isBlankLine_splitLines]

/-- The lines of a message are numbered in the text from the blank lines above on. -/
theorem exists_line_of_messageLines {raw : String} {i : Nat} {read : List Char}
    (h : (messageLines raw)[i]? = some read) :
  ∃ line, (splitLines raw.toList)[blankAbove raw + i]? = some line
    ∧ ReadsAs line read
  := by
  obtain ⟨above, below, hlines, habove, -, hhead, -⟩ :=
    trimsTo_trimBlankLines (splitLines (unixNewlines raw.toList))
  rw [← messageLines] at hlines hhead
  obtain ⟨first, rest, hcore⟩ : ∃ first rest, messageLines raw = first :: rest := by
    apply List.exists_cons_of_ne_nil
    rintro hnil
    rw [hnil] at h
    cases h
  have hfirst : isBlankLine first = false := hhead first (by rw [hcore]; rfl)
  have hcount : blankAbove raw = above.length := by
    have hnone : above.findIdx (fun line => !isBlankLine line) = above.length := by
      apply List.findIdx_eq_length_of_false
      intro line hline
      rw [habove line hline]
      rfl
    rw [blankAbove_eq, hlines, hcore, List.append_assoc, List.findIdx_append, hnone,
      if_neg (Nat.lt_irrefl _), List.cons_append, List.findIdx_cons]
    simp [hfirst]
  apply exists_getElem?_splitLines
  rw [hlines, hcount, List.append_assoc, List.getElem?_append_right (Nat.le_add_right _ _),
    Nat.add_sub_cancel_left]
  rw [List.getElem?_append_left (List.getElem?_eq_some_iff.mp h).1]
  apply h

/-- The line at fault that a parse error counts is that many lines below the blank lines at the
start of the text. -/
theorem exists_messageLine_of_error {raw : String} {e : ParseError} (h : parse raw = .error e)
    {n : Nat} (hn : e.line? = some n) :
  e.lineIn raw = some (blankAbove raw + n) ∧ 0 < n
    ∧ ∃ read, (messageLines raw)[n - 1]? = some read ∧ isBlankLine read = false
      ∧ ∀ header, e = .malformedHeader header → header.toList = read
  := by
  have hhead := (trimmed_trimBlankLines (splitLines (unixNewlines raw.toList))).head
  rw [← messageLines] at hhead
  rcases parse_cases raw with
    ⟨-, hparse⟩
      | ⟨first, below, hlines, ⟨-, hparse⟩ | ⟨-, hbelow, hparse⟩ | ⟨-, -, _, hparse⟩⟩
  · obtain rfl := Except.error.inj (h.symm.trans hparse)
    cases hn
  · obtain rfl := Except.error.inj (h.symm.trans hparse)
    obtain rfl := Option.some.inj hn
    use rfl, Nat.one_pos, first
    rw [hlines] at hhead ⊢
    use rfl, hhead first rfl
    rintro _ ⟨⟩
    rw [String.toList_ofList]
  · obtain rfl := Except.error.inj (h.symm.trans hparse)
    obtain rfl := Option.some.inj hn
    obtain ⟨⟨second, hsecond, hblank⟩, -⟩ := hbelow
    obtain ⟨rest, rfl⟩ := List.head?_eq_some_iff.mp hsecond
    use rfl, Nat.two_pos, second
    rw [hlines]
    use rfl, hblank
    rintro _ ⟨⟩
  · cases h.symm.trans hparse

/-- A parse error that gives a number counts its lines from the first one that is not blank: the
line at fault has that number and those of the blank lines above.  It is a line of the text that is
not blank, and the header that the error quotes, without the carriage return that it may end in.  So
the number is the right one exactly if the text does not start with a blank line. -/
theorem error_line_below_blanks {raw : String} {e : ParseError} (h : parse raw = .error e)
    {n : Nat} (hn : e.line? = some n) :
  e.lineIn raw = some (blankAbove raw + n)
    ∧ (e.line? = e.lineIn raw ↔ blankAbove raw = 0)
    ∧ ∃ line, (splitLines raw.toList)[blankAbove raw + n - 1]? = some line
      ∧ isBlankLine line = false
      ∧ ∀ header, e = .malformedHeader header →
        ReadsAs line header.toList
  := by
  obtain ⟨hlineIn, hpos, read, hread, hblank, hquoted⟩ := exists_messageLine_of_error h hn
  obtain ⟨line, hline, hreads⟩ := exists_line_of_messageLines hread
  use hlineIn
  constructor
  · rw [hn, hlineIn, Option.some.injEq]
    omega
  · use line
    rw [Nat.add_sub_assoc hpos, hreads.isBlankLine_eq]
    use hline, hblank
    rintro header rfl
    rw [hquoted header rfl]
    apply hreads

theorem error_line_below_blanks_shifted :
  parse "\r\n \nfeat: x\nbody" = .error .missingBodySeparator
    ∧ ParseError.missingBodySeparator.line? = some 2
    ∧ ParseError.missingBodySeparator.lineIn "\r\n \nfeat: x\nbody" = some 4
    ∧ blankAbove "\r\n \nfeat: x\nbody" = 2
    ∧ (splitLines "\r\n \nfeat: x\nbody".toList)[3]? = some "body".toList
    ∧ ParseError.missingBodySeparator.line?
      ≠ ParseError.missingBodySeparator.lineIn "\r\n \nfeat: x\nbody"
  := by
  have h : parse "\r\n \nfeat: x\nbody" = .error .missingBodySeparator := by decide
  have habove : blankAbove "\r\n \nfeat: x\nbody" = 2 := by decide
  obtain ⟨hlineIn, hiff, -⟩ := error_line_below_blanks h rfl
  rw [habove] at hlineIn hiff
  refine ⟨h, rfl, hlineIn, habove, by decide, ?_⟩
  rw [Ne, hiff]
  decide

end Commit

end CommitPolicy
