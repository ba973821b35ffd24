import CommitPolicy.Proofs.Message.RoundTrip
import CommitPolicy.Proofs.Text.Newlines

/-!
# Line ends and padding

What is read from a message is decided by its lines without the blank lines at both ends, since its
references are those of its words and blank lines hold no words.  It is shown that it makes no
difference to what is read

* whether lines end in a line feed or in a pair of a carriage return and a line feed;
* which blank lines stand above and below the message;
* which blank lines stand between its first line and the next one that is not blank, as long as any
  do or none does.
-/

namespace CommitPolicy

open Text

/-! ### Blank lines above the footers -/

/-- Blank lines are no footer lines, so they stay above the footers. -/
theorem Footer.splitTrailing_blanks_append {blanks : List (List Char)}
    (hblank : ∀ line ∈ blanks, isBlankLine line = true) (below : List (List Char)) :
  splitTrailing (blanks ++ below) = (blanks ++ (splitTrailing below).1, (splitTrailing below).2)
  := by
  obtain ⟨hlines, hfooters, hlast⟩ := @splitTrailing_spec below _ _ rfl
  have habove : EndsAbove (blanks ++ (splitTrailing below).1) := by
    by_cases hnil : (splitTrailing below).1 = []
    · intro line hline
      rw [hnil, List.append_nil] at hline
      apply not_isLine_of_isBlankLine (hblank line (List.mem_of_getLast? hline))
    · rw [EndsAbove, List.getLast?_append_of_ne_nil _ hnil]
      apply hlast
  have hsplit := splitTrailing_append hfooters habove
  rw [List.append_assoc, ← hlines] at hsplit
  apply hsplit

namespace Commit

/-- Below a header, one blank line divides as well as more of them. -/
theorem splitBody_blanks_append {blanks : List (List Char)} (hne : blanks ≠ [])
    (hblank : ∀ line ∈ blanks, isBlankLine line = true) (below : List (List Char)) :
  splitBody (blanks ++ below)
    = .ok (trimBlankLines (Footer.splitTrailing below).1, (Footer.splitTrailing below).2)
  := by
  obtain ⟨first, rest, rfl⟩ := List.exists_cons_of_ne_nil hne
  obtain ⟨hfirst, hrest⟩ := List.forall_mem_cons.mp hblank
  have htrim := (trimsTo_trimBlankLines (Footer.splitTrailing below).1).pad hrest
    (List.forall_mem_nil _)
  rw [List.append_nil] at htrim
  rw [List.cons_append, splitBody, if_pos hfirst, Footer.splitTrailing_blanks_append hrest]
  simp only [htrim.trimBlankLines_eq]

/-! ### Messages with the same lines -/

/-- What is read is decided by the lines of the message. -/
theorem parse_eq_of_messageLines {s t : String} (h : messageLines s = messageLines t) :
  parse s = parse t
  := by
  have hrefs : TicketRef.extract s = TicketRef.extract t := by
    apply TicketRef.extract_eq_of_words
    rw [words_eq_flatMap, words_eq_flatMap, h]
  unfold parse
  rw [h, hrefs]

/-- If the first lines are the same, then only the division of the other lines and their words
matter. -/
theorem parse_eq_of_splitBody {s t : String} {first : List Char} {below below' : List (List Char)}
    (hs : messageLines s = first :: below) (ht : messageLines t = first :: below')
    (hsplit : splitBody below = splitBody below')
    (hwords : below.flatMap words = below'.flatMap words) :
  parse s = parse t
  := by
  have hrefs : TicketRef.extract s = TicketRef.extract t := by
    apply TicketRef.extract_eq_of_words
    rw [words_eq_flatMap, words_eq_flatMap, hs, ht, List.flatMap_cons, List.flatMap_cons, hwords]
  unfold parse
  rw [hs, ht, hrefs]
  simp only [hsplit]

theorem flatMap_words_blanks {blanks : List (List Char)}
    (hblank : ∀ line ∈ blanks, isBlankLine line = true) :
  blanks.flatMap words = []
  := by
  apply List.flatMap_eq_nil_iff.mpr
  intro line hline
  apply words_of_isBlankLine (hblank line hline)

/-- The lines below are divided in the same way and have the same words, whichever blank lines stand
above them. -/
theorem parse_eq_of_blanks {s t : String} {first : List Char}
    {blanks blanks' kept : List (List Char)} (hs : messageLines s = first :: (blanks ++ kept))
    (ht : messageLines t = first :: (blanks' ++ kept)) (hne : blanks ≠ []) (hne' : blanks' ≠ [])
    (hblank : ∀ line ∈ blanks, isBlankLine line = true)
    (hblank' : ∀ line ∈ blanks', isBlankLine line = true) :
  parse s = parse t
  := by
  apply parse_eq_of_splitBody hs ht
  · rw [splitBody_blanks_append hne hblank, splitBody_blanks_append hne' hblank']
  · rw [List.flatMap_append, List.flatMap_append, flatMap_words_blanks hblank,
      flatMap_words_blanks hblank']

/-! ### Padding -/

/-- White space without carriage returns, in lines of its own above a text. -/
structure PadsAbove (pad : List Char) : Prop where
  blank : isBlankLine pad = true
  noReturn : '\r' ∉ pad
  ends : pad = [] ∨ pad.getLast? = some '\n'

/-- White space without carriage returns, in lines of its own below a text. -/
structure PadsBelow (pad : List Char) : Prop where
  blank : isBlankLine pad = true
  noReturn : '\r' ∉ pad
  starts : pad = [] ∨ pad.head? = some '\n'

theorem PadsAbove.exists_splitLines {pad : List Char} (h : PadsAbove pad) (s : List Char) :
  ∃ above, splitLines (pad ++ s) = above ++ splitLines s
    ∧ ∀ line ∈ above, isBlankLine line = true
  := by
  rcases h.ends with rfl | hlast
  · use [], rfl
    apply List.forall_mem_nil
  · obtain ⟨rest, rfl⟩ := List.getLast?_eq_some_iff.mp hlast
    have hrest : isBlankLine rest = true :=
      isBlankLine_of_subset h.blank (List.subset_append_left _ _)
    use splitLines rest
    constructor
    · rw [List.append_assoc, List.singleton_append, splitLines_append]
    · intro line hline
      apply isBlankLine_of_mem_splitLines hrest hline

theorem PadsBelow.exists_splitLines {pad : List Char} (h : PadsBelow pad) (s : List Char) :
  ∃ below, splitLines (s ++ pad) = splitLines s ++ below
    ∧ ∀ line ∈ below, isBlankLine line = true
  := by
  rcases h.starts with rfl | hhead
  · use []
    rw [List.append_nil, List.append_nil]
    use rfl
    apply List.forall_mem_nil
  · obtain ⟨rest, rfl⟩ := List.head?_eq_some_iff.mp hhead
    have hrest : isBlankLine rest = true :=
      isBlankLine_of_subset h.blank (List.subset_cons_self _ _)
    use splitLines rest, splitLines_append s rest
    intro line hline
    apply isBlankLine_of_mem_splitLines hrest hline

/-- A text without carriage returns is its lines. -/
theorem messageLines_of_no_return {s : List Char} (h : '\r' ∉ s) :
  messageLines (String.ofList s) = trimBlankLines (splitLines s)
  := by
  rw [messageLines, String.toList_ofList, unixNewlines_eq_self (not_hasReturnPair_of_no_return h)]

theorem messageLines_windowsNewlines {raw : String} (h : '\r' ∉ raw.toList) :
  messageLines (String.ofList (windowsNewlines raw.toList)) = messageLines raw
  := by
  rw [messageLines, messageLines, String.toList_ofList, unixNewlines_windowsNewlines h,
    unixNewlines_eq_self (not_hasReturnPair_of_no_return h)]

theorem messageLines_pad {raw : String} (h : '\r' ∉ raw.toList) {before after : List Char}
    (hbefore : PadsAbove before) (hafter : PadsBelow after) :
  messageLines (String.ofList (before ++ raw.toList ++ after)) = messageLines raw
  := by
  obtain ⟨above, habove, hblankAbove⟩ := hbefore.exists_splitLines (raw.toList ++ after)
  obtain ⟨below, hbelow, hblankBelow⟩ := hafter.exists_splitLines raw.toList
  have hpadded : '\r' ∉ before ++ raw.toList ++ after := by
    simp [h, hbefore.noReturn, hafter.noReturn]
  have htrim := (trimsTo_trimBlankLines (splitLines raw.toList)).pad hblankAbove hblankBelow
  rw [messageLines_of_no_return hpadded, List.append_assoc, habove, hbelow, ← List.append_assoc,
    htrim.trimBlankLines_eq, messageLines, unixNewlines_eq_self (not_hasReturnPair_of_no_return h)]

/-! ### Blank lines below the first line -/

/-- Lines without the blank ones at the end. -/
theorem exists_eq_append_blanks (lines : List (List Char)) :
  ∃ kept below, lines = kept ++ below ∧ (∀ line ∈ below, isBlankLine line = true)
    ∧ ∀ line ∈ kept.getLast?, isBlankLine line = false
  := by
  use lines.rdropWhile isBlankLine, lines.rtakeWhile isBlankLine
  refine ⟨List.rdropWhile_append_rtakeWhile.symm, ?_, ?_⟩
  · intro line hline
    apply List.mem_rtakeWhile_imp hline
  · intro line hline
    obtain ⟨hne, rfl⟩ := List.mem_getLast?_eq_getLast hline
    simpa using List.rdropWhile_last_not isBlankLine _ hne

/-- What remains of a message whose first lines are blank, another one and blank ones again: the
blank lines below that one remain if other lines do. -/
theorem trimBlankLines_first {above blanks kept below : List (List Char)} {first : List Char}
    (habove : ∀ line ∈ above, isBlankLine line = true) (hfirst : isBlankLine first = false)
    (hblanks : ∀ line ∈ blanks, isBlankLine line = true)
    (hbelow : ∀ line ∈ below, isBlankLine line = true)
    (hlast : ∀ line ∈ kept.getLast?, isBlankLine line = false) :
  trimBlankLines (above ++ first :: (blanks ++ (kept ++ below)))
    = first :: if kept = [] then [] else blanks ++ kept
  := by
  apply TrimsTo.trimBlankLines_eq
  split
  · next hnil =>
    have hsingle : Trimmed [first] := by
      constructor
      · simpa using hfirst
      · simpa using hfirst
    have hpad := hsingle.trimsTo.pad habove (List.forall_mem_append.mpr ⟨hblanks, hbelow⟩)
    rw [List.append_assoc, List.singleton_append] at hpad
    rw [hnil, List.nil_append]
    apply hpad
  · next hne =>
    have hcore : Trimmed (first :: (blanks ++ kept)) := by
      constructor
      · simpa using hfirst
      · rw [← List.cons_append, List.getLast?_append_of_ne_nil _ hne]
        apply hlast
    have hpad := hcore.trimsTo.pad habove hbelow
    rw [List.append_assoc, List.cons_append, List.append_assoc] at hpad
    apply hpad

/-- The lines of the message are joined again with other blank lines below the first one. -/
theorem parse_other_blanks {raw : String} (h : '\r' ∉ raw.toList)
    {above blanks blanks' below : List (List Char)} {first : List Char}
    (hlines : splitLines raw.toList = above ++ first :: (blanks ++ below))
    (habove : ∀ line ∈ above, isBlankLine line = true) (hfirst : isBlankLine first = false)
    (hne : blanks ≠ []) (hblank : ∀ line ∈ blanks, isBlankLine line = true) (hne' : blanks' ≠ [])
    (hblank' : ∀ line ∈ blanks', isBlankLine line = true) (hlf' : ∀ line ∈ blanks', '\n' ∉ line) :
  parse (String.ofList (joinLines (above ++ first :: (blanks' ++ below)))) = parse raw
  := by
  have hunbroken : ∀ line ∈ above ++ first :: (blanks ++ below), Unbroken line := by
    rw [← hlines]
    intro line hline
    apply unbroken_of_mem_splitLines h hline
  have habove' : ∀ line ∈ above ++ [first], Unbroken line := by
    intro line hline
    apply hunbroken line
    rcases List.mem_append.mp hline with hline | hline
    · apply List.mem_append_left _ hline
    · simp [List.mem_singleton.mp hline]
  have hbelow : ∀ line ∈ below, Unbroken line := by
    intro line hline
    apply hunbroken line
    simp [hline]
  -- In the joined text the other blank lines may have lost carriage returns, but they stay blank.
  obtain ⟨read, hneRead, hblankRead, hread⟩ :=
    exists_blank_splitLines habove' hbelow hne' hblank' hlf'
  rw [List.append_assoc, List.singleton_append, List.append_assoc, List.singleton_append] at hread
  obtain ⟨kept, rest, rfl, hrest, hlast⟩ := exists_eq_append_blanks below
  have hs : messageLines (String.ofList (joinLines (above ++ first :: (blanks' ++ (kept ++ rest)))))
      = first :: if kept = [] then [] else read ++ kept := by
    rw [messageLines, String.toList_ofList, hread,
      trimBlankLines_first habove hfirst hblankRead hrest hlast]
  have ht : messageLines raw = first :: if kept = [] then [] else blanks ++ kept := by
    rw [messageLines, unixNewlines_eq_self (not_hasReturnPair_of_no_return h), hlines,
      trimBlankLines_first habove hfirst hblank hrest hlast]
  by_cases hnil : kept = []
  · rw [if_pos hnil] at hs ht
    apply parse_eq_of_messageLines (hs.trans ht.symm)
  · rw [if_neg hnil] at hs ht
    apply parse_eq_of_blanks hs ht hneRead hne hblankRead hblank

/-- A message without carriage returns is read in the same way

* with a carriage return in front of every line feed;
* with white space in lines of its own above and below it;
* with any blank lines in place of those that stand below its first line that is not blank.

The commit has the same parts and the same references, or the error is the same one. -/
theorem parse_ignores_padding {raw : String} (h : '\r' ∉ raw.toList) :
  parse (String.ofList (windowsNewlines raw.toList)) = parse raw
    ∧ (∀ before after, PadsAbove before → PadsBelow after →
      parse (String.ofList (before ++ raw.toList ++ after)) = parse raw)
    ∧ ∀ above first blanks below, splitLines raw.toList = above ++ first :: (blanks ++ below) →
      (∀ line ∈ above, isBlankLine line = true) → isBlankLine first = false →
      blanks ≠ [] → (∀ line ∈ blanks, isBlankLine line = true) →
        ∀ blanks', blanks' ≠ [] → (∀ line ∈ blanks', isBlankLine line = true) →
          (∀ line ∈ blanks', '\n' ∉ line) →
            parse (String.ofList (joinLines (above ++ first :: (blanks' ++ below)))) = parse raw
  := by
  refine ⟨?_, ?_, ?_⟩
  · apply parse_eq_of_messageLines (messageLines_windowsNewlines h)
  · intro before after hbefore hafter
    apply parse_eq_of_messageLines (messageLines_pad h hbefore hafter)
  · intro above first blanks below hlines habove hfirst hne hblank blanks' hne' hblank' hlf'
    apply parse_other_blanks h hlines habove hfirst hne hblank hne' hblank' hlf'

/-- The commit that is read from a message below, however it is laid out. -/
def padded : Commit where
  type := "fix"
  scope := none
  breaking := false
  breakingMarker := false
  subject := "x"
  body := some "see AB-1"
  footers := [⟨"Refs", "2", " #"⟩]
  malformedFooters := []
  ticketRefs := [⟨.github, "2", "#2"⟩, ⟨.jira, "AB-1", "AB-1"⟩]

theorem parse_ignores_padding_spread :
  '\r' ∉ "fix: x\n\nsee AB-1\n\nRefs #2".toList
    ∧ parse "fix: x\n\nsee AB-1\n\nRefs #2" = .ok padded
    ∧ parse "fix: x\r\n\r\nsee AB-1\r\n\r\nRefs #2" = .ok padded
    ∧ PadsAbove " \n\t\n".toList ∧ PadsBelow "\n ".toList
    ∧ parse " \n\t\nfix: x\n\nsee AB-1\n\nRefs #2\n " = .ok padded
    ∧ splitLines "fix: x\n\nsee AB-1\n\nRefs #2".toList
      = [] ++ "fix: x".toList :: ([[]] ++ ["see AB-1".toList, [], "Refs #2".toList])
    ∧ parse "fix: x\n\t\r\n \nsee AB-1\n\nRefs #2" = .ok padded
  := by
  have h : '\r' ∉ "fix: x\n\nsee AB-1\n\nRefs #2".toList := by decide
  have hparse : parse "fix: x\n\nsee AB-1\n\nRefs #2" = .ok padded := by decide
  have hbefore : PadsAbove " \n\t\n".toList := ⟨by decide, by decide, by decide⟩
  have hafter : PadsBelow "\n ".toList := ⟨by decide, by decide, by decide⟩
  have hlines : splitLines "fix: x\n\nsee AB-1\n\nRefs #2".toList
      = [] ++ "fix: x".toList :: ([[]] ++ ["see AB-1".toList, [], "Refs #2".toList]) := by decide
  obtain ⟨hpairs, hpad, hblanks⟩ := parse_ignores_padding h
  have hother := hblanks _ _ _ _ hlines (by decide) (by decide) (by decide) (by decide)
    ["\t\r".toList, " ".toList] (by decide) (by decide) (by decide)
  rw [hparse] at hpairs hother
  exact ⟨h, hparse, hpairs, hbefore, hafter, (hpad _ _ hbefore hafter).trans hparse, hlines, hother⟩

end Commit

end CommitPolicy
