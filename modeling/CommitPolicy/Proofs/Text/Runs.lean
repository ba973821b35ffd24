import CommitPolicy.Proofs.Text.Lines
import CommitPolicy.Text.Word

/-!
# Runs of characters

A reader takes the longest run of characters of a class, so it takes exactly the run that was
written if no character of the class follows.

The words of a text are its runs of characters that are not blank.  A function that reads the text
on either side of a blank character by itself depends on the words alone, and the layout of a
text, that is its line breaks and blank lines, does not change its words.
-/

namespace CommitPolicy.Text

/-! ### The run that a reader takes -/

section Run

variable {p : Char → Bool} {a b : List Char}

theorem takeWhile_run (ha : ∀ c ∈ a, p c = true) (hb : ∀ c ∈ b.head?, p c = false) :
  (a ++ b).takeWhile p = a
  := by
  rw [List.takeWhile_append_of_pos ha]
  cases b with
  | nil => simp
  | cons c b => simp [hb c rfl]

theorem dropWhile_run (ha : ∀ c ∈ a, p c = true) (hb : ∀ c ∈ b.head?, p c = false) :
  (a ++ b).dropWhile p = b
  := by
  rw [List.dropWhile_append_of_pos ha]
  cases b with
  | nil => rfl
  | cons c b => simp [hb c rfl]

/-- A character outside the class ends the run, wherever the run ends. -/
theorem takeWhile_append_stop {c : Char} (hc : p c = false) (s t : List Char) :
  (s ++ c :: t).takeWhile p = s.takeWhile p
  := by
  induction s with
  | nil => simp [hc]
  | cons d s ih => simp [List.takeWhile_cons, ih]

theorem dropWhile_append_stop {c : Char} (hc : p c = false) (s t : List Char) :
  (s ++ c :: t).dropWhile p = s.dropWhile p ++ c :: t
  := by
  induction s with
  | nil => simp [hc]
  | cons d s ih =>
      rw [List.cons_append, List.dropWhile_cons, List.dropWhile_cons]
      split
      · apply ih
      · rfl

end Run

/-! ### Blank characters are in no other class -/

theorem exists_mem_of_inRanges {ranges : List (Nat × Nat)} {n : Nat}
    (h : inRanges ranges n = true) :
  ∃ r ∈ ranges, r.1 ≤ n ∧ n ≤ r.2
  := by
  induction ranges with
  | nil => simp [inRanges] at h
  | cons r rest ih =>
      simp only [inRanges, Bool.if_false_left, Bool.and_eq_true, Bool.not_eq_true',
        decide_eq_false_iff_not, not_lt, Bool.or_eq_true, decide_eq_true_eq] at h
      obtain ⟨hlo, hhi | hrest⟩ := h
      · use r, List.mem_cons_self
      · obtain ⟨s, hs, hn⟩ := ih hrest
        use s, List.mem_cons_of_mem _ hs

/-- Two classes of characters whose ranges do not meet have no character in common. -/
theorem inRanges_eq_false_of_disjoint {as bs : List (Nat × Nat)}
    (h : ∀ a ∈ as, ∀ b ∈ bs, a.2 < b.1 ∨ b.2 < a.1) {n : Nat} (hn : inRanges as n = true) :
  inRanges bs n = false
  := by
  by_contra hb
  obtain ⟨a, ha, hna⟩ := exists_mem_of_inRanges hn
  obtain ⟨b, hb, hnb⟩ := exists_mem_of_inRanges (Bool.not_eq_false _ ▸ hb)
  have := h a ha b hb
  omega

theorem isDigit_of_isBlank {c : Char} (h : isBlank c = true) :
  isDigit c = false
  := inRanges_eq_false_of_disjoint (by decide +kernel) h

theorem isWordChar_of_isBlank {c : Char} (h : isBlank c = true) :
  isWordChar c = false
  := by
  have hletter : isLetter c = false := inRanges_eq_false_of_disjoint (by decide +kernel) h
  have hnumber : inRanges numberRanges c.toNat = false :=
    inRanges_eq_false_of_disjoint (by decide +kernel) h
  have hscore : c ≠ '_' := by
    rintro rfl
    revert h
    decide
  simp [isWordChar, isAlphanumeric, isDigit_of_isBlank h, hletter, hnumber, hscore]

/-! ### Words -/

/-- The words of a text: its runs of characters that are not blank. -/
def words (s : List Char) : List (List Char) :=
  (s.splitOnP isBlank).filter fun word => !word.isEmpty

@[simp]
theorem words_nil :
  words [] = []
  := rfl

/-- A blank character divides the words before it from the words after it. -/
theorem words_append {b : Char} (hb : isBlank b = true) (s t : List Char) :
  words (s ++ b :: t) = words s ++ words t
  := by
  rw [words, List.splitOnP_append_cons s t hb, List.filter_append]
  rfl

/-- A text is a single run, or a blank character stands between two shorter texts. -/
theorem blank_cases (s : List Char) :
  (∀ c ∈ s, isBlank c = false) ∨ ∃ a b t, isBlank b = true ∧ s = a ++ b :: t
  := by
  by_cases h : ∃ b ∈ s, isBlank b = true
  · obtain ⟨b, hmem, hb⟩ := h
    obtain ⟨a, t, rfl⟩ := List.append_of_mem hmem
    apply Or.inr ⟨a, b, t, hb, rfl⟩
  · apply Or.inl
    simpa using h

/-- A function that reads the text on either side of a blank character by itself reads the words
one after the other. -/
theorem eq_flatMap_words {α : Type} {read : List Char → List α} (hnil : read [] = [])
    (happend : ∀ b, isBlank b = true → ∀ s t, read (s ++ b :: t) = read s ++ read t)
    (s : List Char) :
  read s = (words s).flatMap read
  := by
  rcases blank_cases s with h | ⟨a, b, t, hb, rfl⟩
  · rw [words, List.splitOnP_eq_singleton h]
    cases s with
    | nil => simp [hnil]
    | cons c s => simp
  · rw [happend b hb, words_append hb, List.flatMap_append, ← eq_flatMap_words hnil happend a,
      ← eq_flatMap_words hnil happend t]
termination_by s.length
decreasing_by
  all_goals simp_all
  all_goals omega

theorem words_of_isBlankLine {line : List Char} (h : isBlankLine line = true) :
  words line = []
  := by
  induction line with
  | nil => rfl
  | cons c line ih =>
      rw [isBlankLine, List.all_cons, Bool.and_eq_true] at h
      rw [← List.nil_append (c :: line), words_append h.1, ih h.2]
      rfl

theorem words_joinLines (lines : List (List Char)) :
  words (joinLines lines) = lines.flatMap words
  := by
  induction lines using joinLines.induct with
  | case1 => rfl
  | case2 line => simp [joinLines]
  | case3 line rest hrest ih =>
      rw [joinLines, words_append (by decide), ih, List.flatMap_cons]
      apply hrest

/-- Blank lines hold no words. -/
theorem TrimsTo.flatMap_words {lines core : List (List Char)} (h : TrimsTo lines core) :
  lines.flatMap words = core.flatMap words
  := by
  have hblank : ∀ blanks : List (List Char), (∀ line ∈ blanks, isBlankLine line = true) →
      blanks.flatMap words = [] := by
    intro blanks hblanks
    apply List.flatMap_eq_nil_iff.mpr
    intro line hline
    apply words_of_isBlankLine (hblanks line hline)
  obtain ⟨above, below, rfl, habove, hbelow, -⟩ := h
  rw [List.flatMap_append, List.flatMap_append, hblank above habove, hblank below hbelow]
  simp

theorem words_dropReturn (line : List Char) :
  words (dropReturn line) = words line
  := by
  unfold dropReturn
  split
  · next h =>
    obtain ⟨rest, rfl⟩ := List.getLast?_eq_some_iff.mp h
    rw [List.dropLast_concat, words_append (by decide)]
    simp
  · rfl

theorem words_unixNewlines (s : List Char) :
  words (unixNewlines s) = words s
  := by
  by_cases h : '\n' ∈ s
  · obtain ⟨a, b, rfl, ha⟩ := List.eq_append_cons_of_mem h
    rw [unixNewlines_append ha, words_append (by decide), words_append (by decide),
      words_dropReturn, words_unixNewlines b]
  · rw [unixNewlines_eq_self (not_hasReturnPair_of_not_mem h)]
termination_by s.length
decreasing_by
  all_goals simp_all
  all_goals omega

end CommitPolicy.Text
