import CommitPolicy.Proofs.Message.Canonical
import CommitPolicy.Proofs.Message.Ticket

/-!
# Reading, writing and reading again

A commit that was read is canonical, and its format has the words of the message and so the same
references.  It is shown that

* the format of a commit that was read can be read again, and gives the commit itself exactly when
  it holds no carriage return before a line feed;
* it holds no such pair if the message holds none once every pair in it has been replaced by a line
  feed.
-/

namespace CommitPolicy

open Text

namespace Commit

/-! ### Commits that were read -/

theorem bodyLines_assemble {body : List (List Char)} (hlf : ∀ line ∈ body, '\n' ∉ line) (h : Header)
    (footers : List Footer) (refs : List TicketRef) :
  (assemble h body footers refs).bodyLines = body
  := by
  cases body with
  | nil => rfl
  | cons line rest => simp [assemble, bodyLines, splitLines_joinLines _ hlf]

/-- How the parts of a commit that was read stand in the lines of the message. -/
structure ReadFrom (c : Commit) (raw : String) (first : List Char) (gap : Char)
    (above : List (List Char)) : Prop where
  lines : messageLines raw = first :: (above ++ c.footers.map Footer.toLine)
  spells : c.headerParts.Spells gap first
  body : TrimsTo above c.bodyLines
  footers : ∀ f ∈ c.footers, f.WellFormed
  last : Footer.EndsAbove above
  eq_assemble : c = assemble c.headerParts c.bodyLines c.footers (TicketRef.extract raw)

theorem not_mem_of_mem_messageLines {raw : String} {line : List Char}
    (h : line ∈ messageLines raw) :
  '\n' ∉ line
  := not_mem_of_mem_splitLines ((trimsTo_trimBlankLines _).subset h)

theorem exists_readFrom {raw : String} {c : Commit} (h : parse raw = .ok c) :
  ∃ first gap above, c.ReadFrom raw first gap above
  := by
  obtain ⟨first, below, gap, body, footers, hlines, hspells, hsplit, hc⟩ := exists_of_parse_eq_ok h
  obtain ⟨above, rfl, hbody, hfooters, hlast⟩ := splitBody_spec hsplit
  have hlf : ∀ line ∈ body, '\n' ∉ line := by
    intro line hline
    apply @not_mem_of_mem_messageLines raw
    simp [hlines, hbody.subset hline]
  have hbodyLines : c.bodyLines = body := by
    rw [hc]
    apply bodyLines_assemble hlf
  have hfooters' : c.footers = footers := by
    rw [hc]
    rfl
  use first, gap, above
  subst hbodyLines hfooters'
  constructor
  · apply hlines
  · apply hspells
  · apply hbody
  · apply hfooters
  · apply hlast
  · apply hc

/-! ### Words and carriage returns of a layout -/

/-- The words of a message are those of its lines. -/
theorem words_eq_flatMap (raw : String) :
  words raw.toList = (messageLines raw).flatMap words
  := by
  rw [messageLines, ← (trimsTo_trimBlankLines _).flatMap_words, ← words_joinLines,
    joinLines_splitLines, words_unixNewlines]

/-- Which blank character follows the colon of a header makes no difference to its words. -/
theorem words_toLine {gap gap' : Char} (hgap : isBlank gap = true) (hgap' : isBlank gap' = true)
    (h : Header) :
  words (h.toLine gap) = words (h.toLine gap')
  := by
  rw [Header.toLine_eq_opening, Header.toLine_eq_opening, words_append hgap, words_append hgap']

theorem count_toLine_space_le (h : Header) (gap : Char) :
  (h.toLine ' ').count '\r' ≤ (h.toLine gap).count '\r'
  := by
  simp [Header.toLine_eq_opening, List.count_cons]

theorem getLast?_toLine {h : Header} (hw : h.WellFormed) (gap : Char) :
  (h.toLine gap).getLast? = h.subject.getLast?
  := by
  obtain ⟨c, hc, -⟩ := hw.subject
  have hne : h.subject ≠ [] := List.ne_nil_of_mem hc
  rw [Header.toLine_eq_opening, ← List.singleton_append, List.getLast?_append_of_ne_nil _ (by simp),
    List.getLast?_append_of_ne_nil _ hne]

section ReadFrom

variable {c : Commit} {raw : String} {first : List Char} {gap : Char} {above : List (List Char)}
  (hr : c.ReadFrom raw first gap above)
include hr

/-- Where no footers follow, nothing is dropped below the body. -/
theorem ReadFrom.exists_eq_append (hfooters : c.footers = []) :
  ∃ top, above = top ++ c.bodyLines
  := by
  apply hr.body.exists_eq_append
  intro line hline
  have hlast : line ∈ (messageLines raw).getLast? := by
    simp [hr.lines, hfooters, List.getLast?_cons, Option.mem_def.mp hline]
  apply (trimmed_trimBlankLines _).last line hlast

/-- A commit that was read is canonical. -/
theorem ReadFrom.canonical :
  c.Canonical
  := by
  have hfirst : '\n' ∉ first := by
    apply @not_mem_of_mem_messageLines raw
    simp [hr.lines]
  rw [hr.spells.line_eq] at hfirst
  constructor
  · apply hr.spells.wellFormed
  · intro scope hscope hmem
    apply hfirst
    rw [Header.toLine, Option.mem_def.mp hscope]
    simp [Header.scopeText, hmem]
  · intro hmem
    apply hfirst
    simp [Header.toLine, hmem]
  · obtain ⟨-, -, -, -, -, hbody⟩ := hr.body
    apply hbody
  · apply hr.footers
  · intro f hf hmem
    have hline : f.toLine ∈ messageLines raw := by
      rw [hr.lines]
      simp [List.mem_map_of_mem hf]
    apply not_mem_of_mem_messageLines hline
    simp [Footer.toLine, Footer.format, hmem]
  · intro hfooters
    obtain ⟨top, habove⟩ := hr.exists_eq_append hfooters
    intro line hline
    apply hr.last
    simp [habove, Option.mem_def.mp hline]

/-- The format of a commit that was read has the words of the message. -/
theorem ReadFrom.words_format :
  words c.format.toList = words raw.toList
  := by
  have hhead := words_toLine (show isBlank ' ' = true by decide) hr.spells.gap_blank c.headerParts
  have hlayout : (layout (c.headerParts.toLine ' ') c.bodyLines c.footers).flatMap words
      = (messageLines raw).flatMap words := by
    rw [layout, hr.lines, List.flatMap_cons, List.flatMap_cons, List.flatMap_append,
      List.flatMap_append, flatMap_words_block, flatMap_words_block, hr.body.flatMap_words,
      hr.spells.line_eq, hhead]
  rw [hr.canonical.toList_format, words_joinLines, hlayout, ← words_eq_flatMap]

/-- The format of a commit that was read holds no more carriage returns than the message, once every
pair in it has been replaced by a line feed. -/
theorem ReadFrom.count_format_le :
  c.format.toList.count '\r' ≤ (unixNewlines raw.toList).count '\r'
  := by
  have hlines := (trimsTo_trimBlankLines (splitLines (unixNewlines raw.toList))).count_le
  rw [← count_joinLines (splitLines _), joinLines_splitLines, ← messageLines, hr.lines,
    hr.spells.line_eq] at hlines
  have hhead := count_toLine_space_le c.headerParts gap
  have hbody := hr.body.count_le
  rw [List.flatten_cons, List.flatten_append, List.count_append, List.count_append] at hlines
  rw [hr.canonical.toList_format, count_joinLines, layout, List.flatten_cons, List.flatten_append,
    flatten_block, flatten_block, List.count_append, List.count_append]
  omega

/-- Every break of the layout follows a line that was followed by a break in the message, or an
empty line. -/
theorem ReadFrom.cleanBreaks_layout (hlines : CleanBreaks (messageLines raw)) :
  CleanBreaks (layout (c.headerParts.toLine ' ') c.bodyLines c.footers)
  := by
  have hhead : (c.headerParts.toLine ' ').getLast? = first.getLast? := by
    rw [hr.spells.line_eq, getLast?_toLine hr.spells.wellFormed,
      getLast?_toLine hr.spells.wellFormed]
  by_cases hfooters : c.footers = []
  · obtain ⟨top, habove⟩ := hr.exists_eq_append hfooters
    by_cases hbody : c.bodyLines = []
    · simp [layout, hfooters, hbody, CleanBreaks]
    · have hmessage : messageLines raw = (first :: top) ++ c.bodyLines := by
        simp [hr.lines, hfooters, habove]
      have hlayout : layout (c.headerParts.toLine ' ') c.bodyLines c.footers
          = [c.headerParts.toLine ' ', []] ++ c.bodyLines := by
        simp [layout, hfooters, block_of_ne_nil hbody]
      rw [hmessage, cleanBreaks_append hbody] at hlines
      rw [hlayout, cleanBreaks_append hbody]
      constructor
      · simpa [hhead] using hlines.1 first List.mem_cons_self
      · apply hlines.2
  · have hne : c.footers.map Footer.toLine ≠ [] := mt List.map_eq_nil_iff.mp hfooters
    have hlayout : layout (c.headerParts.toLine ' ') c.bodyLines c.footers
        = (c.headerParts.toLine ' ' :: block c.bodyLines ++ [[]])
          ++ c.footers.map Footer.toLine := by
      simp [layout, block_of_ne_nil hne]
    rw [hr.lines, ← List.cons_append, cleanBreaks_append hne, List.forall_mem_cons] at hlines
    obtain ⟨⟨hfirst, habove⟩, hbelow⟩ := hlines
    rw [hlayout, cleanBreaks_append hne]
    refine ⟨?_, hbelow⟩
    rw [List.forall_mem_append, List.forall_mem_cons, hhead]
    refine ⟨⟨hfirst, ?_⟩, by simp⟩
    intro line hline
    rcases mem_block hline with rfl | hline
    · simp
    · apply habove line (hr.body.subset hline)

theorem ReadFrom.not_hasReturnPair_format (hpair : ¬HasReturnPair (unixNewlines raw.toList)) :
  ¬HasReturnPair c.format.toList
  := by
  have hlf : ∀ line ∈ splitLines (unixNewlines raw.toList), '\n' ∉ line := by
    intro line hline
    apply not_mem_of_mem_splitLines hline
  rw [← joinLines_splitLines (unixNewlines raw.toList), not_hasReturnPair_joinLines hlf] at hpair
  rw [hr.canonical.toList_format, not_hasReturnPair_joinLines hr.canonical.not_mem_of_mem_layout]
  apply hr.cleanBreaks_layout
  apply (trimsTo_trimBlankLines _).cleanBreaks hpair

end ReadFrom

/-- A header line without the carriage return that it may end in is a header line. -/
theorem isLine_dropReturn {h : Header} (hw : h.WellFormed) {gap : Char}
    (hgap : isBlank gap = true) :
  Header.IsLine (dropReturn (h.toLine gap))
  := by
  obtain ⟨c, hc, hblank⟩ := hw.subject
  have hreturn : c ≠ '\r' := by
    rintro rfl
    revert hblank
    decide
  use { h with subject := dropReturn h.subject }, gap
  constructor
  · constructor
    · apply hw.type_ne_nil
    · apply hw.type_chars
    · apply hw.scope
    · use c, mem_dropReturn hc hreturn
  · apply hgap
  · have hne : h.subject ≠ [] := List.ne_nil_of_mem hc
    rw [Header.toLine_eq_opening, Header.toLine_eq_opening, dropReturn_append _ (by simp),
      ← List.singleton_append, dropReturn_append _ hne]
    rfl

/-- Whatever stands before its line feeds, the format of a canonical commit can be read: its first
line is a header line, and an empty line comes next if any line does. -/
theorem Canonical.exists_parse_format {c : Commit} (hc : c.Canonical) :
  ∃ d, parse c.format = .ok d
  := by
  have hlf := hc.not_mem_of_mem_layout _ List.mem_cons_self
  have hformat := hc.toList_format
  rw [layout] at hformat
  rcases block_append_block c.bodyLines (c.footers.map Footer.toLine) with hnil | ⟨rest, hne, hrest⟩
  · rw [hnil, joinLines] at hformat
    have hpair : ¬HasReturnPair c.format.toList := hformat ▸ not_hasReturnPair_of_not_mem hlf
    use assemble c.headerParts c.bodyLines c.footers (TicketRef.extract c.format)
    apply hc.parse_format hpair
  · have hfirst : Header.IsLine (dropReturn (c.headerParts.toLine ' ')) :=
      isLine_dropReturn hc.header (by decide)
    have hlines : splitLines (unixNewlines c.format.toList)
        = dropReturn (c.headerParts.toLine ' ')
          :: [] :: splitLines (unixNewlines (joinLines rest)) := by
      have hlf' : '\n' ∉ dropReturn (c.headerParts.toLine ' ') := mt (dropReturn_subset _ ·) hlf
      have hempty : '\n' ∉ ([] : List Char) := List.not_mem_nil
      rw [hformat, hrest, joinLines_cons (List.cons_ne_nil _ _), joinLines_cons hne,
        unixNewlines_append hlf, unixNewlines_append hempty, splitLines_append,
        splitLines_of_not_mem hlf']
      rfl
    have htrim := trimsTo_trimBlankLines (splitLines (unixNewlines c.format.toList))
    rw [hlines] at htrim
    obtain ⟨kept, below, hkept, hrest⟩ := htrim.exists_eq_cons hfirst.isBlankLine
    apply parse_of_not_lacksSeparator (by rw [messageLines, hlines, hkept]) hfirst
    rintro ⟨⟨second, hsecond, hblank⟩, -⟩
    obtain ⟨tail, rfl⟩ := List.head?_eq_some_iff.mp hsecond
    obtain ⟨rfl, -⟩ := List.cons.inj hrest
    cases hblank

/-- The format of a commit that was read can be read again.  It gives the commit itself exactly when
it holds no carriage return before a line feed, and it holds none if the message holds none once
every pair has been replaced by a line feed. -/
theorem parse_format_of_parse {raw : String} {c : Commit} (h : parse raw = .ok c) :
  (∃ d, parse c.format = .ok d ∧ (d = c ↔ ¬HasReturnPair c.format.toList))
    ∧ (¬HasReturnPair (unixNewlines raw.toList) → parse c.format = .ok c)
  := by
  obtain ⟨first, gap, above, hr⟩ := exists_readFrom h
  have hexact : ¬HasReturnPair c.format.toList → parse c.format = .ok c := by
    intro hpair
    rw [hr.canonical.parse_format hpair, TicketRef.extract_eq_of_words hr.words_format]
    apply congrArg Except.ok hr.eq_assemble.symm
  constructor
  · by_cases hpair : HasReturnPair c.format.toList
    · obtain ⟨d, hd⟩ := hr.canonical.exists_parse_format
      use d, hd
      refine iff_of_false ?_ (not_not_intro hpair)
      rintro rfl
      -- Reading again counts the carriage returns of the format once more, and one of them is lost.
      obtain ⟨first', gap', above', hr'⟩ := exists_readFrom hd
      have hle := hr'.count_format_le
      have hlt := count_unixNewlines_lt hpair
      omega
    · use c, hexact hpair
      simpa using hpair
  · intro hpair
    apply hexact (hr.not_hasReturnPair_format hpair)

/-- A commit that was read from a message with a tab after the colon and a footer below it. -/
def tabbed : Commit where
  type := "ci"
  scope := some "a"
  breaking := true
  breakingMarker := true
  subject := "x"
  body := none
  footers := [⟨"R", "1", " #"⟩]
  malformedFooters := []
  ticketRefs := [⟨.github, "1", "#1"⟩]

theorem parse_format_tabbed :
  parse "ci(a)!:\tx\r\nR #1" = .ok tabbed
    ∧ ¬HasReturnPair (unixNewlines "ci(a)!:\tx\r\nR #1".toList)
    ∧ parse tabbed.format = .ok tabbed
  := by
  have hparse : parse "ci(a)!:\tx\r\nR #1" = .ok tabbed := by decide
  have hpair : ¬HasReturnPair (unixNewlines "ci(a)!:\tx\r\nR #1".toList) := by decide
  use hparse, hpair
  apply (parse_format_of_parse hparse).2 hpair

/-- A carriage return that stays in front of a line feed is lost when the format is read. -/
example :
  parse "ci: x\r\r\n\nb" = .ok ⟨"ci", none, false, false, "x\r", some "b", [], [], []⟩
    ∧ parse "ci: x\r\n\nb" = .ok ⟨"ci", none, false, false, "x", some "b", [], [], []⟩
  := by decide

end Commit

end CommitPolicy
