import CommitPolicy.Proofs.Text.Trim
import CommitPolicy.Text.Lines
import Mathlib.Data.List.Basic

/-!
# Laws of lines

* Cutting a text into lines and joining lines undo each other, as long as no line holds a line feed.
* The pieces of a text that is cut at a character occur in the text and do not hold the character.
* Writing a line feed for every pair of a carriage return and a line feed leaves a text alone
  exactly when it has no such pair, and a text has no such pair exactly when none of its lines but
  the last ends in a carriage return.
* Dropping the blank lines at both ends leaves lines whose first and last are not blank, and drops
  blank lines only.
-/

namespace CommitPolicy.Text

/-! ### Cutting and joining -/

theorem splitAt_eq_splitOn (sep : Char) (s : List Char) :
  splitAt sep s = s.splitOn sep
  := by
  induction s with
  | nil => rfl
  | cons c rest ih =>
      rw [splitAt, List.splitOn_cons_eq_if_modifyHead, ih]
      by_cases h : c = sep
      · simp [h]
      · obtain ⟨piece, pieces, hp⟩ := List.exists_cons_of_ne_nil (List.splitOn_ne_nil sep rest)
        simp [h, hp]

theorem joinLines_eq_intercalate (lines : List (List Char)) :
  joinLines lines = ['\n'].intercalate lines
  := by
  induction lines using joinLines.induct with
  | case1 => rfl
  | case2 line => simp [joinLines]
  | case3 line rest hrest ih =>
      rw [joinLines, ih, List.intercalate_cons_of_ne_nil hrest]
      · simp
      · apply hrest

/-- Joining the lines of a text gives the text back. -/
theorem joinLines_splitLines (s : List Char) :
  joinLines (splitLines s) = s
  := by
  rw [splitLines, splitAt_eq_splitOn, joinLines_eq_intercalate]
  apply List.intercalate_splitOn

theorem joinLines_cons {rest : List (List Char)} (h : rest ≠ []) (line : List Char) :
  joinLines (line :: rest) = line ++ '\n' :: joinLines rest
  := by
  rw [joinLines]
  apply h

theorem joinLines_append {above below : List (List Char)} (ha : above ≠ []) (hb : below ≠ []) :
  joinLines (above ++ below) = joinLines above ++ '\n' :: joinLines below
  := by
  induction above with
  | nil => contradiction
  | cons line above ih =>
      cases above with
      | nil => apply joinLines_cons hb
      | cons next above =>
          have hnext : next :: above ≠ [] := List.cons_ne_nil next above
          rw [List.cons_append, joinLines_cons (by simp), ih hnext, joinLines_cons hnext,
            List.append_assoc]
          rfl

/-- The lines of joined lines are those lines, if there are any and none holds a line feed. -/
theorem splitLines_joinLines {lines : List (List Char)} (hne : lines ≠ [])
    (h : ∀ line ∈ lines, '\n' ∉ line) :
  splitLines (joinLines lines) = lines
  := by
  rw [splitLines, splitAt_eq_splitOn, joinLines_eq_intercalate]
  apply List.splitOn_intercalate '\n' h hne

/-- A line feed divides the lines before it from the lines after it. -/
theorem splitLines_append (a b : List Char) :
  splitLines (a ++ '\n' :: b) = splitLines a ++ splitLines b
  := by
  simp only [splitLines, splitAt_eq_splitOn]
  apply List.splitOn_append_cons_self

theorem splitLines_of_not_mem {a : List Char} (h : '\n' ∉ a) :
  splitLines a = [a]
  := by
  rw [splitLines, splitAt_eq_splitOn]
  apply List.splitOn_eq_singleton h

theorem splitAt_ne_nil (sep : Char) (s : List Char) :
  splitAt sep s ≠ []
  := by
  rw [splitAt_eq_splitOn]
  apply List.splitOn_ne_nil

theorem splitLines_ne_nil (s : List Char) :
  splitLines s ≠ []
  := splitAt_ne_nil '\n' s

/-- No piece of a text that is cut at a character holds that character. -/
theorem not_mem_of_mem_splitAt {sep : Char} {s piece : List Char} (h : piece ∈ splitAt sep s) :
  sep ∉ piece
  := by
  induction s generalizing piece with
  | nil =>
      rw [List.mem_singleton.mp h]
      apply List.not_mem_nil
  | cons c rest ih =>
      obtain ⟨first, pieces, hp⟩ := List.exists_cons_of_ne_nil (splitAt_ne_nil sep rest)
      rw [hp] at ih
      rw [splitAt, hp] at h
      split at h
      · rcases List.mem_cons.mp h with rfl | h
        · apply List.not_mem_nil
        · apply ih h
      · -- The character joins the first of the pieces after it.
        next hc =>
        rcases List.mem_cons.mp h with rfl | h
        · apply List.not_mem_cons_of_ne_of_not_mem (Ne.symm hc)
          apply ih List.mem_cons_self
        · apply ih (List.mem_cons_of_mem _ h)

/-- No line of a text holds a line feed. -/
theorem not_mem_of_mem_splitLines {s line : List Char} (h : line ∈ splitLines s) :
  '\n' ∉ line
  := not_mem_of_mem_splitAt h

/-- The first piece starts the text, and every piece occurs in it. -/
theorem splitAt_isPrefix_isInfix (sep : Char) (s : List Char) :
  (∀ piece ∈ (splitAt sep s).head?, piece <+: s) ∧ ∀ piece ∈ splitAt sep s, piece <:+: s
  := by
  induction s with
  | nil => simp [splitAt]
  | cons c rest ih =>
      obtain ⟨first, pieces, hp⟩ := List.exists_cons_of_ne_nil (splitAt_ne_nil sep rest)
      rw [hp] at ih
      obtain ⟨hfirst, hpieces⟩ := ih
      rw [splitAt, hp]
      split
      · constructor
        · rintro _ ⟨⟩
          apply List.nil_prefix
        · intro piece hmem
          rcases List.mem_cons.mp hmem with rfl | hmem
          · apply List.nil_infix
          · apply List.infix_cons (hpieces piece hmem)
      · have hjoined : c :: first <+: c :: rest :=
          List.cons_prefix_cons.mpr ⟨rfl, hfirst first rfl⟩
        constructor
        · rintro _ ⟨⟩
          apply hjoined
        · intro piece hmem
          rcases List.mem_cons.mp hmem with rfl | hmem
          · apply hjoined.isInfix
          · apply List.infix_cons (hpieces piece (List.mem_cons_of_mem _ hmem))

/-! ### Occurrence -/

theorem contains_iff {needle s : List Char} :
  contains needle s = true ↔ needle <:+: s
  := by
  induction s with
  | nil => simp [contains]
  | cons c s ih =>
      rw [contains, Bool.or_eq_true, ih, List.infix_cons_iff, List.isPrefixOf_iff_prefix]

/-! ### Pairs of a carriage return and a line feed -/

/-- A carriage return stands directly before a line feed. -/
def HasReturnPair (s : List Char) : Prop := ['\r', '\n'] <:+: s

theorem hasReturnPair_cons {c : Char} {s : List Char} :
  HasReturnPair (c :: s) ↔ (c = '\r' ∧ s.head? = some '\n') ∨ HasReturnPair s
  := by
  rw [HasReturnPair, List.infix_cons_iff]
  cases s with
  | nil => simp [HasReturnPair]
  | cons d s => simp [HasReturnPair, eq_comm]

theorem not_hasReturnPair_of_not_mem {a : List Char} (h : '\n' ∉ a) :
  ¬HasReturnPair a
  := by
  intro hp
  apply h
  apply hp.subset
  simp

/-- A text without such a pair is left alone. -/
theorem unixNewlines_eq_self {s : List Char} (h : ¬HasReturnPair s) :
  unixNewlines s = s
  := by
  induction s using unixNewlines.induct with
  | case1 => rfl
  | case2 rest ih => simp [hasReturnPair_cons] at h
  | case3 c rest hc ih =>
      rw [unixNewlines, ih]
      · intro hrest
        apply h
        apply hasReturnPair_cons.mpr (Or.inr hrest)
      · apply hc

theorem count_unixNewlines_le (s : List Char) :
  (unixNewlines s).count '\r' ≤ s.count '\r'
  := by
  induction s using unixNewlines.induct with
  | case1 => rfl
  | case2 rest ih =>
      simp only [unixNewlines, List.count_cons]
      omega
  | case3 c rest hc ih =>
      rw [unixNewlines, List.count_cons, List.count_cons]
      · omega
      · apply hc

/-- A text with such a pair loses a carriage return. -/
theorem count_unixNewlines_lt {s : List Char} (h : HasReturnPair s) :
  (unixNewlines s).count '\r' < s.count '\r'
  := by
  induction s using unixNewlines.induct with
  | case1 => simp [HasReturnPair] at h
  | case2 rest ih =>
      have := count_unixNewlines_le rest
      simp only [unixNewlines, List.count_cons]
      simp
      omega
  | case3 c rest hc ih =>
      have hrest : HasReturnPair rest := by
        obtain ⟨rfl, hd⟩ | hrest := hasReturnPair_cons.mp h
        · obtain ⟨tail, rfl⟩ := List.head?_eq_some_iff.mp hd
          exact absurd rfl (hc tail rfl)
        · apply hrest
      have := ih hrest
      rw [unixNewlines, List.count_cons, List.count_cons]
      · omega
      · apply hc

instance (s : List Char) : Decidable (HasReturnPair s) :=
  decidable_of_iff (unixNewlines s ≠ s) <| by
    constructor
    · intro hne
      by_contra h
      apply hne (unixNewlines_eq_self h)
    · intro h heq
      have := count_unixNewlines_lt h
      rw [heq] at this
      omega

/-- A line feed after a line makes a pair exactly when the line ends in a carriage return. -/
theorem hasReturnPair_append {a b : List Char} (h : '\n' ∉ a) :
  HasReturnPair (a ++ '\n' :: b) ↔ a.getLast? = some '\r' ∨ HasReturnPair b
  := by
  induction a with
  | nil => simp [hasReturnPair_cons]
  | cons c a ih =>
      have ha := List.not_mem_of_not_mem_cons h
      rw [List.cons_append, hasReturnPair_cons, ih ha]
      cases a with
      | nil => simp
      | cons d a =>
          have hd := List.ne_of_not_mem_cons ha
          simp [hd.symm]

theorem count_joinLines (lines : List (List Char)) :
  (joinLines lines).count '\r' = lines.flatten.count '\r'
  := by
  induction lines using joinLines.induct with
  | case1 => rfl
  | case2 line => simp [joinLines]
  | case3 line rest hrest ih =>
      rw [joinLines_cons hrest, List.count_append, List.count_cons, ih, List.flatten_cons,
        List.count_append]
      rfl

/-- No line but the last ends in a carriage return. -/
def CleanBreaks (lines : List (List Char)) : Prop :=
  ∀ line ∈ lines.dropLast, line.getLast? ≠ some '\r'

theorem cleanBreaks_append {above below : List (List Char)} (h : below ≠ []) :
  CleanBreaks (above ++ below)
    ↔ (∀ line ∈ above, line.getLast? ≠ some '\r') ∧ CleanBreaks below
  := by
  rw [CleanBreaks, List.dropLast_append_of_ne_nil h, List.forall_mem_append, CleanBreaks]

/-- Joined lines have no pair exactly when the breaks between them are clean. -/
theorem not_hasReturnPair_joinLines {lines : List (List Char)}
    (h : ∀ line ∈ lines, '\n' ∉ line) :
  ¬HasReturnPair (joinLines lines) ↔ CleanBreaks lines
  := by
  induction lines using joinLines.induct with
  | case1 => simp [joinLines, CleanBreaks, HasReturnPair]
  | case2 line =>
      have := not_hasReturnPair_of_not_mem (h line List.mem_cons_self)
      simpa [joinLines, CleanBreaks] using this
  | case3 line rest hrest ih =>
      obtain ⟨hline, h⟩ := List.forall_mem_cons.mp h
      rw [joinLines, hasReturnPair_append hline, not_or, ih h]
      · simp [CleanBreaks, List.dropLast_cons_of_ne_nil hrest]
      · apply hrest

/-- A line without the carriage return that it may end in. -/
def dropReturn (line : List Char) : List Char :=
  if line.getLast? = some '\r' then line.dropLast else line

/-- A line before a line feed loses the carriage return that it may end in. -/
theorem unixNewlines_append {a : List Char} (h : '\n' ∉ a) (b : List Char) :
  unixNewlines (a ++ '\n' :: b) = dropReturn a ++ '\n' :: unixNewlines b
  := by
  induction a with
  | nil => simp [unixNewlines, dropReturn]
  | cons c a ih =>
      have ha := List.not_mem_of_not_mem_cons h
      cases a with
      | nil =>
          by_cases hr : c = '\r'
          · simp [hr, unixNewlines, dropReturn]
          · simp [hr, unixNewlines, dropReturn]
      | cons d a =>
          have hd := List.ne_of_not_mem_cons ha
          have hstep : dropReturn (c :: d :: a) = c :: dropReturn (d :: a) := by
            simp only [dropReturn, List.getLast?_cons_cons, List.dropLast_cons_cons]
            split
            · rfl
            · rfl
          rw [hstep, List.cons_append, unixNewlines, ih ha]
          · rfl
          · simp [hd.symm]

theorem dropReturn_append (a : List Char) {b : List Char} (hb : b ≠ []) :
  dropReturn (a ++ b) = a ++ dropReturn b
  := by
  rw [dropReturn, dropReturn, List.getLast?_append_of_ne_nil a hb,
    List.dropLast_append_of_ne_nil hb]
  split
  · rfl
  · rfl

theorem dropReturn_subset (line : List Char) :
  dropReturn line ⊆ line
  := by
  unfold dropReturn
  split
  · apply List.dropLast_subset
  · apply List.Subset.refl

theorem mem_dropReturn {c : Char} {line : List Char} (h : c ∈ line) (hc : c ≠ '\r') :
  c ∈ dropReturn line
  := by
  unfold dropReturn
  split
  · next hlast =>
    obtain ⟨rest, rfl⟩ := List.getLast?_eq_some_iff.mp hlast
    simpa [hc] using h
  · apply h

/-! ### Blank lines at the ends -/

theorem isBlankLine_eq_false_iff {line : List Char} :
  isBlankLine line = false ↔ ∃ c ∈ line, isBlank c = false
  := by
  simp [isBlankLine]

/-- Neither the first nor the last line is blank. -/
structure Trimmed (lines : List (List Char)) : Prop where
  head : ∀ line ∈ lines.head?, isBlankLine line = false
  last : ∀ line ∈ lines.getLast?, isBlankLine line = false

instance (lines : List (List Char)) : Decidable (Trimmed lines) :=
  decidable_of_iff ((∀ line ∈ lines.head?, isBlankLine line = false)
      ∧ ∀ line ∈ lines.getLast?, isBlankLine line = false) <| by
    constructor
    · rintro ⟨head, last⟩
      use head
    · rintro ⟨head, last⟩
      use head

theorem trimBlankLines_eq_rdropWhile (lines : List (List Char)) :
  trimBlankLines lines = (lines.dropWhile isBlankLine).rdropWhile isBlankLine
  := rfl

/-- `core` is what remains of `lines` when the blank lines above and below are dropped. -/
def TrimsTo (lines core : List (List Char)) : Prop :=
  ∃ above below, lines = above ++ core ++ below
    ∧ (∀ line ∈ above, isBlankLine line = true) ∧ (∀ line ∈ below, isBlankLine line = true)
    ∧ Trimmed core

theorem trimsTo_iff {lines core : List (List Char)} :
  TrimsTo lines core ↔ DropsTo isBlankLine lines core
  := by
  constructor
  · rintro ⟨above, below, hlines, habove, hbelow, hhead, hlast⟩
    exact ⟨⟨above, below, hlines, habove, hbelow⟩, hhead, hlast⟩
  · rintro ⟨⟨above, below, hlines, habove, hbelow⟩, hhead, hlast⟩
    exact ⟨above, below, hlines, habove, hbelow, hhead, hlast⟩

theorem trimsTo_trimBlankLines (lines : List (List Char)) :
  TrimsTo lines (trimBlankLines lines)
  := by
  rw [trimsTo_iff, trimBlankLines_eq_rdropWhile]
  apply dropsTo_rdropWhile

theorem trimmed_trimBlankLines (lines : List (List Char)) :
  Trimmed (trimBlankLines lines)
  := by
  obtain ⟨-, -, -, -, -, htrimmed⟩ := trimsTo_trimBlankLines lines
  apply htrimmed

theorem trimsTo_nil :
  TrimsTo [] []
  := trimsTo_trimBlankLines []

theorem Trimmed.trimsTo {lines : List (List Char)} (h : Trimmed lines) :
  TrimsTo lines lines
  := by
  use [], []
  simpa using h

theorem TrimsTo.cons {lines core : List (List Char)} (h : TrimsTo lines core) {line : List Char}
    (hline : isBlankLine line = true) :
  TrimsTo (line :: lines) core
  := by
  obtain ⟨above, below, rfl, habove, hrest⟩ := h
  use line :: above, below, rfl, List.forall_mem_cons.mpr ⟨hline, habove⟩

theorem TrimsTo.concat {lines core : List (List Char)} (h : TrimsTo lines core) {line : List Char}
    (hline : isBlankLine line = true) :
  TrimsTo (lines ++ [line]) core
  := by
  obtain ⟨above, below, rfl, habove, hbelow, hcore⟩ := h
  refine ⟨above, below ++ [line], List.append_assoc _ _ _, habove, ?_, hcore⟩
  apply List.forall_mem_append.mpr ⟨hbelow, ?_⟩
  simpa using hline

/-- Blank lines above and below change nothing. -/
theorem TrimsTo.pad {lines core above below : List (List Char)} (h : TrimsTo lines core)
    (habove : ∀ line ∈ above, isBlankLine line = true)
    (hbelow : ∀ line ∈ below, isBlankLine line = true) :
  TrimsTo (above ++ lines ++ below) core
  := by
  obtain ⟨above', below', rfl, habove', hbelow', hcore⟩ := h
  use above ++ above', below' ++ below
  refine ⟨by simp only [List.append_assoc], ?_, ?_, hcore⟩
  · apply List.forall_mem_append.mpr ⟨habove, habove'⟩
  · apply List.forall_mem_append.mpr ⟨hbelow', hbelow⟩

/-- Where the last line is not blank, nothing is dropped below. -/
theorem TrimsTo.exists_eq_append {lines core : List (List Char)} (h : TrimsTo lines core)
    (hlast : ∀ line ∈ lines.getLast?, isBlankLine line = false) :
  ∃ above, lines = above ++ core
  := by
  obtain ⟨above, below, rfl, -, hbelow, -⟩ := h
  use above
  cases hl : below.getLast? with
  | none => simp [List.getLast?_eq_none_iff.mp hl]
  | some line =>
      have hblank := hbelow line (List.mem_of_getLast? hl)
      rw [hlast line (by simp [hl])] at hblank
      cases hblank

/-- Where the first line is not blank, nothing is dropped above. -/
theorem TrimsTo.exists_eq_cons {first : List Char} {rest core : List (List Char)}
    (h : TrimsTo (first :: rest) core) (hfirst : isBlankLine first = false) :
  ∃ kept below, core = first :: kept ∧ rest = kept ++ below
  := by
  obtain ⟨above, below, hlines, habove, hbelow, -⟩ := h
  cases above with
  | cons line above =>
      obtain ⟨rfl, -⟩ := List.cons.inj hlines
      rw [habove first List.mem_cons_self] at hfirst
      cases hfirst
  | nil =>
      cases core with
      | nil =>
          have hmem : first ∈ below := by
            rw [List.append_nil, List.nil_append] at hlines
            simp [← hlines]
          rw [hbelow first hmem] at hfirst
          cases hfirst
      | cons line kept =>
          obtain ⟨rfl, hrest⟩ := List.cons.inj hlines
          use kept, below, rfl, hrest

theorem TrimsTo.count_le {lines core : List (List Char)} (h : TrimsTo lines core) :
  core.flatten.count '\r' ≤ lines.flatten.count '\r'
  := by
  obtain ⟨above, below, rfl, -⟩ := h
  rw [List.flatten_append, List.flatten_append, List.count_append, List.count_append]
  omega

theorem TrimsTo.subset {lines core : List (List Char)} (h : TrimsTo lines core) :
  core ⊆ lines
  := by
  obtain ⟨above, below, rfl, -⟩ := h
  intro line hline
  simp [hline]

/-- The breaks between the lines that remain are as they were. -/
theorem TrimsTo.cleanBreaks {lines core : List (List Char)} (h : TrimsTo lines core)
    (hlines : CleanBreaks lines) :
  CleanBreaks core
  := by
  obtain ⟨above, below, rfl, -⟩ := h
  intro line hline
  apply hlines
  rw [List.append_assoc, List.dropLast_append_of_ne_nil]
  · apply List.mem_append_right
    by_cases hbelow : below = []
    · simpa [hbelow] using hline
    · rw [List.dropLast_append_of_ne_nil hbelow]
      apply List.mem_append_left _ (core.dropLast_subset hline)
  · rintro hnil
    simp_all

/-- What remains does not depend on where the blank lines are cut off. -/
theorem TrimsTo.trimBlankLines_eq {lines core : List (List Char)} (h : TrimsTo lines core) :
  trimBlankLines lines = core
  := by
  rw [trimBlankLines_eq_rdropWhile]
  apply (trimsTo_iff.mp h).rdropWhile_eq

end CommitPolicy.Text
