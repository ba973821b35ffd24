import CommitPolicy.Proofs.Message.RoundTrip

/-!
# The split of the lines below the header

The lines below the header are divided into a body and footers.  It is shown that

* the footers are the longest run of footer lines at the end, each read from its own line, and the
  body is what remains of the lines above them without the blank lines at both ends;
* so no line is lost, doubled or moved, if blank lines do not count.
-/

namespace CommitPolicy

open Text

/-! ### The longest run at the end -/

/-- The longest of the lists at the end of `l` whose members all satisfy `p`. -/
structure IsLongestSuffix {α : Type} (p : α → Prop) (suffix l : List α) : Prop where
  isSuffix : suffix <:+ l
  forall_mem : ∀ a ∈ suffix, p a
  longest : ∀ other, other <:+ l → (∀ a ∈ other, p a) → other <:+ suffix

/-- A run at the end is the longest one if what stands above it does not end in a member of the
run. -/
theorem isLongestSuffix_append {α : Type} {p : α → Prop} {above suffix : List α}
    (hsuffix : ∀ a ∈ suffix, p a) (habove : ∀ a ∈ above.getLast?, ¬p a) :
  IsLongestSuffix p suffix (above ++ suffix)
  := by
  constructor
  · apply List.suffix_append
  · apply hsuffix
  · intro other hother hp
    rcases List.suffix_or_suffix_of_suffix hother (List.suffix_append above suffix) with h | h
    · apply h
    · obtain ⟨more, rfl⟩ := h
      have hmore : more <:+ above := by
        obtain ⟨rest, hrest⟩ := hother
        use rest
        rw [← List.append_assoc] at hrest
        apply List.append_cancel_right hrest
      cases hlast : more.getLast? with
      | none =>
          rw [List.getLast?_eq_none_iff.mp hlast]
          apply List.suffix_refl
      | some a =>
          obtain ⟨rest, rfl⟩ := hmore
          have ha : a ∈ (rest ++ more).getLast? := by
            rw [List.getLast?_append, hlast]
            rfl
          exfalso
          apply habove a ha
          apply hp
          apply List.mem_append_left _ (List.mem_of_getLast? hlast)

/-- The last paragraph stands below a blank line, if anything stands above it, and has none. -/
theorem lastParagraph_spec (lines : List (List Char)) :
  ∃ above, lines = above ++ lastParagraph lines
    ∧ (∀ line ∈ above.getLast?, isBlankLine line = true)
    ∧ ∀ line ∈ lastParagraph lines, isBlankLine line = false
  := by
  induction lines with
  | nil =>
      use []
      simp [lastParagraph]
  | cons line rest ih =>
      rw [lastParagraph]
      split
      · next hany =>
        obtain ⟨above, hrest, hlast, hsolid⟩ := ih
        have hne : above ≠ [] := by
          rintro rfl
          obtain ⟨blank, hmem, hblank⟩ := List.any_eq_true.mp hany
          rw [hrest, List.nil_append] at hmem
          rw [hsolid blank hmem] at hblank
          cases hblank
        use line :: above
        refine ⟨congrArg (line :: ·) hrest, ?_, hsolid⟩
        rw [List.getLast?_cons_of_ne_nil hne]
        apply hlast
      · next hany =>
        have hrest : ∀ next ∈ rest, isBlankLine next = false := by simpa using hany
        split
        · next hblank =>
          use [line], rfl
          simpa [hblank] using hrest
        · next hblank =>
          use [], rfl
          simpa [hblank] using hrest

/-- The last paragraph is the longest run of lines at the end that are not blank. -/
theorem isLongestSuffix_lastParagraph (lines : List (List Char)) :
  IsLongestSuffix (fun line => isBlankLine line = false) (lastParagraph lines) lines
  := by
  obtain ⟨above, hlines, hlast, hsolid⟩ := lastParagraph_spec lines
  have h : IsLongestSuffix (fun line => isBlankLine line = false) (lastParagraph lines)
      (above ++ lastParagraph lines) := isLongestSuffix_append hsolid (by simpa using hlast)
  rw [← hlines] at h
  apply h

/-! ### Lines that are not blank -/

/-- The lines that are not blank. -/
def solidLines (lines : List (List Char)) : List (List Char) :=
  lines.filter fun line => !isBlankLine line

theorem solidLines_append (above below : List (List Char)) :
  solidLines (above ++ below) = solidLines above ++ solidLines below
  := List.filter_append above below

theorem solidLines_of_blank {lines : List (List Char)}
    (h : ∀ line ∈ lines, isBlankLine line = true) :
  solidLines lines = []
  := by
  apply List.filter_eq_nil_iff.mpr
  intro line hline
  rw [h line hline]
  decide

/-- Dropping the blank lines at both ends drops blank lines only. -/
theorem Text.TrimsTo.solidLines_eq {lines core : List (List Char)} (h : TrimsTo lines core) :
  solidLines lines = solidLines core
  := by
  obtain ⟨above, below, rfl, habove, hbelow, -⟩ := h
  rw [solidLines_append, solidLines_append, solidLines_of_blank habove, solidLines_of_blank hbelow,
    List.nil_append, List.append_nil]

theorem solidLines_map_toLine {footers : List Footer} (h : ∀ f ∈ footers, f.WellFormed) :
  solidLines (footers.map Footer.toLine) = footers.map Footer.toLine
  := by
  apply List.filter_eq_self.mpr
  intro line hline
  obtain ⟨f, hf, rfl⟩ := List.mem_map.mp hline
  rw [(h f hf).isBlankLine_toLine]
  rfl

namespace Commit

section ReadFrom

variable {c : Commit} {raw : String} {first : List Char} {gap : Char} {above : List (List Char)}
  (hr : c.ReadFrom raw first gap above)
include hr

theorem ReadFrom.isLongestSuffix :
  IsLongestSuffix Footer.IsLine (c.footers.map Footer.toLine)
    (above ++ c.footers.map Footer.toLine)
  := by
  apply isLongestSuffix_append _ hr.last
  intro line hline
  obtain ⟨f, hf, rfl⟩ := List.mem_map.mp hline
  use f, hr.footers f hf

/-- The body is written with the lines that remain above the footers. -/
theorem ReadFrom.body_eq :
  c.body = if trimBlankLines above = [] then none
    else some (String.ofList (joinLines (trimBlankLines above)))
  := by
  rw [hr.body.trimBlankLines_eq]
  have hbody := congrArg Commit.body hr.eq_assemble
  simpa [assemble] using hbody

theorem ReadFrom.solidLines_below :
  solidLines (above ++ c.footers.map Footer.toLine)
    = solidLines c.bodyLines ++ c.footers.map Footer.toLine
  := by
  rw [solidLines_append, hr.body.solidLines_eq, solidLines_map_toLine hr.footers]

end ReadFrom

/-- The footers of a commit that was read are the lines of the longest run of footer lines below the
header, and the body is what remains above them without the blank lines at both ends.  The lines
below the header that are not blank are those of the body and then those of the footers. -/
theorem parse_splits_below {raw : String} {c : Commit} (h : parse raw = .ok c) :
  TrimsTo (splitLines (unixNewlines raw.toList)) (messageLines raw)
    ∧ ∃ first below above, messageLines raw = first :: below
      ∧ below = above ++ c.footers.map (fun f => f.format.toList)
      ∧ IsLongestSuffix Footer.IsLine (c.footers.map fun f => f.format.toList) below
      ∧ (∀ f ∈ c.footers, Footer.ofLine? f.format.toList = some f)
      ∧ TrimsTo above (trimBlankLines above)
      ∧ c.body = (if trimBlankLines above = [] then none
        else some (String.ofList (joinLines (trimBlankLines above))))
      ∧ solidLines below = solidLines c.bodyLines ++ c.footers.map fun f => f.format.toList
  := by
  obtain ⟨first, gap, above, hr⟩ := exists_readFrom h
  use trimsTo_trimBlankLines _
  use first, above ++ c.footers.map Footer.toLine, above, hr.lines, rfl
  refine ⟨hr.isLongestSuffix, ?_, trimsTo_trimBlankLines _, hr.body_eq, hr.solidLines_below⟩
  intro f hf
  apply Footer.ofLine?_toLine (hr.footers f hf)

/-- A commit that was read from a message with a footer line in its body, which text follows. -/
def interleaved : Commit where
  type := "fix"
  scope := none
  breaking := false
  breakingMarker := false
  subject := "x"
  body := some "A: b\n\ntext"
  footers := [⟨"R", "1", " #"⟩, ⟨"C", " d", ": "⟩]
  malformedFooters := []
  ticketRefs := [⟨.github, "1", "#1"⟩]

theorem parse_splits_interleaved :
  parse "fix: x\n\n\nA: b\n\ntext\n \nR #1\nC:  d\n" = .ok interleaved
    ∧ solidLines ["A: b".toList, [], "text".toList, " ".toList, "R #1".toList, "C:  d".toList]
      = solidLines interleaved.bodyLines
        ++ interleaved.footers.map fun f => f.format.toList
  := by
  have hparse : parse "fix: x\n\n\nA: b\n\ntext\n \nR #1\nC:  d\n" = .ok interleaved := by decide
  use hparse
  obtain ⟨-, first, below, above, hlines, -, -, -, -, -, hsolid⟩ := parse_splits_below hparse
  have hbelow : below
      = [[], [], "A: b".toList, [], "text".toList, " ".toList, "R #1".toList, "C:  d".toList] := by
    have hmessage : messageLines "fix: x\n\n\nA: b\n\ntext\n \nR #1\nC:  d\n"
        = "fix: x".toList :: [[], [], "A: b".toList, [], "text".toList, " ".toList, "R #1".toList,
          "C:  d".toList] := by decide
    rw [hmessage] at hlines
    apply (List.cons.inj hlines).2.symm
  rw [← hsolid, hbelow]
  rfl

end Commit

end CommitPolicy
