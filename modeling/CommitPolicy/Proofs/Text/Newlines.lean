import CommitPolicy.Proofs.Text.Lines

/-!
# Line ends of two styles

A text in which every line feed is written with a carriage return in front of it has the lines of
the text.  In any text, the lines that are read once its pairs have been replaced are its own lines,
each but the last without the carriage return that it may end in.  They have the same numbers, and
blank lines are read as blank lines.
-/

namespace CommitPolicy.Text

/-! ### The characters of lines -/

theorem mem_joinLines_of_mem {lines : List (List Char)} {line : List Char} {c : Char}
    (hline : line ∈ lines) (hc : c ∈ line) :
  c ∈ joinLines lines
  := by
  induction lines using joinLines.induct with
  | case1 => cases hline
  | case2 only =>
      obtain rfl := List.mem_singleton.mp hline
      apply hc
  | case3 first rest hrest ih =>
      rw [joinLines_cons hrest]
      rcases List.mem_cons.mp hline with rfl | hline
      · apply List.mem_append_left _ hc
      · apply List.mem_append_right
        apply List.mem_cons_of_mem _ (ih hline)

theorem mem_of_mem_splitLines {s line : List Char} {c : Char} (hline : line ∈ splitLines s)
    (hc : c ∈ line) :
  c ∈ s
  := by
  rw [← joinLines_splitLines s]
  apply mem_joinLines_of_mem hline hc

theorem unixNewlines_subset (s : List Char) :
  unixNewlines s ⊆ s
  := by
  intro c hc
  induction s using unixNewlines.induct with
  | case1 => cases hc
  | case2 rest ih =>
      rw [unixNewlines] at hc
      apply List.mem_cons_of_mem
      rcases List.mem_cons.mp hc with rfl | hc
      · apply List.mem_cons_self
      · apply List.mem_cons_of_mem _ (ih hc)
  | case3 d rest hd ih =>
      rw [unixNewlines] at hc
      · rcases List.mem_cons.mp hc with rfl | hc
        · apply List.mem_cons_self
        · apply List.mem_cons_of_mem _ (ih hc)
      · apply hd

theorem isBlankLine_of_subset {s t : List Char} (hs : isBlankLine s = true) (h : t ⊆ s) :
  isBlankLine t = true
  := by
  rw [isBlankLine, List.all_eq_true] at hs ⊢
  intro c hc
  apply hs c (h hc)

/-- A blank text has blank lines only. -/
theorem isBlankLine_of_mem_splitLines {s line : List Char} (hs : isBlankLine s = true)
    (hline : line ∈ splitLines s) :
  isBlankLine line = true
  := by
  apply isBlankLine_of_subset hs
  intro c hc
  apply mem_of_mem_splitLines hline hc

theorem isBlankLine_joinLines {lines : List (List Char)}
    (h : ∀ line ∈ lines, isBlankLine line = true) :
  isBlankLine (joinLines lines) = true
  := by
  induction lines using joinLines.induct with
  | case1 => rfl
  | case2 line => apply h line List.mem_cons_self
  | case3 line rest hrest ih =>
      obtain ⟨hline, hblank⟩ := List.forall_mem_cons.mp h
      rw [joinLines_cons hrest, isBlankLine, List.all_append, List.all_cons, ← isBlankLine,
        ← isBlankLine, hline, ih hblank]
      rfl

theorem isBlankLine_unixNewlines {s : List Char} (hs : isBlankLine s = true) :
  isBlankLine (unixNewlines s) = true
  := isBlankLine_of_subset hs (unixNewlines_subset s)

theorem isBlankLine_dropReturn {line : List Char} (hline : isBlankLine line = true) :
  isBlankLine (dropReturn line) = true
  := isBlankLine_of_subset hline (dropReturn_subset line)

/-! ### Lines inside a text -/

theorem exists_append_of_mem_splitLines {s line : List Char} (hline : line ∈ splitLines s) :
  ∃ before after, s = before ++ line ++ after
    ∧ (∀ c ∈ before.getLast?, c = '\n') ∧ ∀ c ∈ after.head?, c = '\n'
  := by
  obtain ⟨above, below, hlines⟩ := List.append_of_mem hline
  have hbelow : ∃ after, joinLines (line :: below) = line ++ after
      ∧ ∀ c ∈ after.head?, c = '\n' := by
    by_cases hnil : below = []
    · use []
      simp [hnil, joinLines]
    · use '\n' :: joinLines below, joinLines_cons hnil line
      simp
  obtain ⟨after, hafter, hhead⟩ := hbelow
  have hs := joinLines_splitLines s
  rw [hlines] at hs
  by_cases hnil : above = []
  · use [], after
    rw [hnil, List.nil_append, hafter] at hs
    simpa [hs] using hhead
  · use joinLines above ++ ['\n'], after
    rw [joinLines_append hnil (List.cons_ne_nil _ _), hafter] at hs
    refine ⟨?_, ?_, hhead⟩
    · rw [← hs]
      simp
    · simp

theorem mem_splitLines_append {before line after : List Char} (hline : '\n' ∉ line)
    (hbefore : ∀ c ∈ before.getLast?, c = '\n') (hafter : ∀ c ∈ after.head?, c = '\n') :
  line ∈ splitLines (before ++ line ++ after)
  := by
  have hrest : line ∈ splitLines (line ++ after) := by
    cases after with
    | nil =>
        rw [List.append_nil, splitLines_of_not_mem hline]
        apply List.mem_singleton_self
    | cons c after =>
        obtain rfl := hafter c rfl
        rw [splitLines_append, splitLines_of_not_mem hline]
        apply List.mem_cons_self
  cases hlast : before.getLast? with
  | none =>
      rw [List.getLast?_eq_none_iff.mp hlast]
      apply hrest
  | some c =>
      obtain ⟨rest, rfl⟩ := List.getLast?_eq_some_iff.mp hlast
      obtain rfl := hbefore c hlast
      rw [List.append_assoc, List.append_assoc, List.singleton_append, splitLines_append]
      apply List.mem_append_right _ hrest

/-- A line stands between line feeds, or at an end of the text. -/
theorem mem_splitLines_iff {s line : List Char} :
  line ∈ splitLines s
    ↔ '\n' ∉ line ∧ ∃ before after, s = before ++ line ++ after
      ∧ (∀ c ∈ before.getLast?, c = '\n') ∧ ∀ c ∈ after.head?, c = '\n'
  := by
  constructor
  · intro hline
    use not_mem_of_mem_splitLines hline
    apply exists_append_of_mem_splitLines hline
  · rintro ⟨hline, before, after, rfl, hbefore, hafter⟩
    apply mem_splitLines_append hline hbefore hafter

/-- A text is what comes before its last line, and that line. -/
theorem exists_lastLine (s : List Char) :
  ∃ above last, s = above ++ last ∧ '\n' ∉ last ∧ ∀ c ∈ above.getLast?, c = '\n'
  := by
  use s.rdropWhile (· != '\n'), s.rtakeWhile (· != '\n')
  refine ⟨List.rdropWhile_append_rtakeWhile.symm, ?_, ?_⟩
  · intro hmem
    simpa using List.mem_rtakeWhile_imp hmem
  · intro c hc
    obtain ⟨hne, rfl⟩ := List.mem_getLast?_eq_getLast hc
    simpa using List.rdropWhile_last_not _ _ hne

/-- A text is its first line, and what comes after it. -/
theorem exists_firstLine (s : List Char) :
  ∃ first below, s = first ++ below ∧ '\n' ∉ first ∧ ∀ c ∈ below.head?, c = '\n'
  := by
  use s.takeWhile (· != '\n'), s.dropWhile (· != '\n')
  refine ⟨List.takeWhile_append_dropWhile.symm, ?_, ?_⟩
  · intro hmem
    simpa using List.mem_takeWhile_imp hmem
  · intro c hc
    have := List.head?_dropWhile_not (· != '\n') s
    rw [Option.mem_def.mp hc] at this
    simpa using this

/-- A line of a part of a text is a part of a line of the text.  What stands around it there comes
from what stands around the part. -/
theorem exists_mem_splitLines_append {front s back line : List Char} (hline : line ∈ splitLines s) :
  ∃ left right, left ++ line ++ right ∈ splitLines (front ++ s ++ back) ∧ left ⊆ front
  := by
  obtain ⟨hlf, before, after, rfl, hbefore, hafter⟩ := mem_splitLines_iff.mp hline
  -- The line goes on to the left only if it is the first line of the part.
  have hleft : ∃ above left, front ++ before = above ++ left ∧ '\n' ∉ left ∧ left ⊆ front
      ∧ ∀ c ∈ above.getLast?, c = '\n' := by
    by_cases hnil : before = []
    · obtain ⟨above, left, rfl, hlf, hlast⟩ := exists_lastLine front
      use above, left
      rw [hnil, List.append_nil]
      use rfl, hlf, List.subset_append_right above left
    · use front ++ before, []
      refine ⟨(List.append_nil _).symm, List.not_mem_nil, List.nil_subset _, ?_⟩
      rw [List.getLast?_append_of_ne_nil _ hnil]
      apply hbefore
  have hright : ∃ right below, after ++ back = right ++ below ∧ '\n' ∉ right
      ∧ ∀ c ∈ below.head?, c = '\n' := by
    cases after with
    | nil => apply exists_firstLine back
    | cons c after =>
        use [], c :: (after ++ back), rfl, List.not_mem_nil
        apply hafter
  obtain ⟨above, left, habove, hlfLeft, hsubset, hlast⟩ := hleft
  obtain ⟨right, below, hbelow, hlfRight, hhead⟩ := hright
  use left, right
  have hmem : '\n' ∉ left ++ line ++ right := by simp [hlf, hlfLeft, hlfRight]
  have htext : front ++ (before ++ line ++ after) ++ back
      = above ++ (left ++ line ++ right) ++ below := by
    calc front ++ (before ++ line ++ after) ++ back
      _ = (front ++ before) ++ line ++ (after ++ back) := by simp only [List.append_assoc]
      _ = above ++ (left ++ line ++ right) ++ below := by
          rw [habove, hbelow]
          simp only [List.append_assoc]
  rw [htext]
  use mem_splitLines_append hmem hlast hhead, hsubset

/-! ### Carriage returns in front of line feeds -/

/-- Writes a pair of a carriage return and a line feed for every line feed. -/
def windowsNewlines (s : List Char) : List Char :=
  s.flatMap fun c => if c = '\n' then ['\r', '\n'] else [c]

/-- In a text without carriage returns, every line feed is written as a pair and read back. -/
theorem unixNewlines_windowsNewlines {s : List Char} (h : '\r' ∉ s) :
  unixNewlines (windowsNewlines s) = s
  := by
  induction s with
  | nil => rfl
  | cons c rest ih =>
      have hrest := List.not_mem_of_not_mem_cons h
      rw [windowsNewlines, List.flatMap_cons, ← windowsNewlines]
      split
      · next hlf =>
        rw [hlf, List.cons_append, List.cons_append, List.nil_append, unixNewlines, ih hrest]
      · rw [List.cons_append, List.nil_append, unixNewlines, ih hrest]
        rintro _ rfl
        apply absurd List.mem_cons_self h

theorem not_hasReturnPair_of_no_return {s : List Char} (h : '\r' ∉ s) :
  ¬HasReturnPair s
  := by
  intro hp
  apply h
  apply hp.subset
  simp

theorem dropReturn_eq_self {line : List Char} (h : '\r' ∉ line) :
  dropReturn line = line
  := by
  rw [dropReturn, if_neg]
  intro hlast
  apply h (List.mem_of_getLast? hlast)

theorem head?_unixNewlines {s : List Char} (h : (unixNewlines s).head? = some '\n') :
  (∃ rest, s = '\n' :: rest) ∨ ∃ rest, s = '\r' :: '\n' :: rest
  := by
  cases s using unixNewlines.fun_cases with
  | case1 => cases h
  | case2 rest => apply Or.inr ⟨rest, rfl⟩
  | case3 c rest hc =>
      rw [unixNewlines] at h
      · obtain rfl := Option.some.inj h
        apply Or.inl ⟨rest, rfl⟩
      · apply hc

/-- A pair that is left once all pairs have been replaced had one more carriage return. -/
theorem infix_of_hasReturnPair_unixNewlines {s : List Char} (h : HasReturnPair (unixNewlines s)) :
  ['\r', '\r', '\n'] <:+: s
  := by
  induction s using unixNewlines.induct with
  | case1 => simp [unixNewlines, HasReturnPair] at h
  | case2 rest ih =>
      rw [unixNewlines, hasReturnPair_cons] at h
      have hrest : HasReturnPair (unixNewlines rest) := by simpa using h
      apply (ih hrest).trans (List.suffix_append ['\r', '\n'] rest).isInfix
  | case3 c rest hc ih =>
      rw [unixNewlines, hasReturnPair_cons] at h
      · rcases h with ⟨rfl, hhead⟩ | hrest
        · rcases head?_unixNewlines hhead with ⟨tail, rfl⟩ | ⟨tail, rfl⟩
          · exact absurd rfl (hc tail rfl)
          · apply (List.prefix_append ['\r', '\r', '\n'] tail).isInfix
        · apply (ih hrest).trans (List.suffix_cons c rest).isInfix
      · apply hc

/-- Fewer lines have no more breaks that follow a carriage return. -/
theorem CleanBreaks.sublist {lines kept : List (List Char)} (h : CleanBreaks lines)
    (hkept : kept.Sublist lines) :
  CleanBreaks kept
  := by
  have htail := hkept.reverse.tail
  rw [List.tail_reverse, List.tail_reverse, List.reverse_sublist] at htail
  intro line hline
  apply h line (htail.subset hline)

/-! ### Lines that are joined and read again -/

/-- Every line that another one follows loses the carriage return that it may end in. -/
theorem splitLines_unixNewlines_append {above below : List (List Char)}
    (habove : ∀ line ∈ above, '\n' ∉ line) (hbelow : below ≠ []) :
  splitLines (unixNewlines (joinLines (above ++ below)))
    = above.map dropReturn ++ splitLines (unixNewlines (joinLines below))
  := by
  induction above with
  | nil => rfl
  | cons line above ih =>
      obtain ⟨hline, habove⟩ := List.forall_mem_cons.mp habove
      have hne : above ++ below ≠ [] := List.append_ne_nil_of_right_ne_nil _ hbelow
      have hkept : '\n' ∉ dropReturn line := mt (dropReturn_subset line ·) hline
      rw [List.cons_append, joinLines_cons hne, unixNewlines_append hline, splitLines_append,
        splitLines_of_not_mem hkept, ih habove]
      rfl

/-- The line holds neither a line feed nor a carriage return. -/
structure Unbroken (line : List Char) : Prop where
  noFeed : '\n' ∉ line
  noReturn : '\r' ∉ line

/-- The lines of a text without carriage returns. -/
theorem unbroken_of_mem_splitLines {s line : List Char} (h : '\r' ∉ s)
    (hline : line ∈ splitLines s) :
  Unbroken line
  := by
  constructor
  · apply not_mem_of_mem_splitLines hline
  · intro hmem
    apply h (mem_of_mem_splitLines hline hmem)

/-- Lines that hold no line break are read as they are. -/
theorem splitLines_unixNewlines_joinLines {lines : List (List Char)} (hne : lines ≠ [])
    (h : ∀ line ∈ lines, Unbroken line) :
  splitLines (unixNewlines (joinLines lines)) = lines
  := by
  have hlf : ∀ line ∈ lines, '\n' ∉ line := fun line hline => (h line hline).noFeed
  have hclean : CleanBreaks lines := by
    intro line hline hlast
    apply (h line (List.dropLast_subset _ hline)).noReturn (List.mem_of_getLast? hlast)
  rw [unixNewlines_eq_self ((not_hasReturnPair_joinLines hlf).mpr hclean),
    splitLines_joinLines hne hlf]

/-- Blank lines between other lines are read as blank lines, whatever white space they hold. -/
theorem exists_blank_splitLines {above blanks below : List (List Char)}
    (habove : ∀ line ∈ above, Unbroken line) (hbelow : ∀ line ∈ below, Unbroken line)
    (hne : blanks ≠ []) (hblank : ∀ line ∈ blanks, isBlankLine line = true)
    (hlf : ∀ line ∈ blanks, '\n' ∉ line) :
  ∃ read, read ≠ [] ∧ (∀ line ∈ read, isBlankLine line = true)
    ∧ splitLines (unixNewlines (joinLines (above ++ (blanks ++ below)))) = above ++ (read ++ below)
  := by
  have hlfAbove : ∀ line ∈ above, '\n' ∉ line := fun line hline => (habove line hline).noFeed
  have hkept : above.map dropReturn = above := by
    calc above.map dropReturn
      _ = above.map id := List.map_congr_left fun line hline =>
          dropReturn_eq_self (habove line hline).noReturn
      _ = above := List.map_id above
  have hne' : blanks ++ below ≠ [] := List.append_ne_nil_of_left_ne_nil hne _
  rw [splitLines_unixNewlines_append hlfAbove hne', hkept]
  by_cases hnil : below = []
  · use splitLines (unixNewlines (joinLines blanks)), splitLines_ne_nil _
    constructor
    · intro line hline
      apply isBlankLine_of_mem_splitLines _ hline
      apply isBlankLine_unixNewlines (isBlankLine_joinLines hblank)
    · rw [hnil, List.append_nil, List.append_nil]
  · use blanks.map dropReturn, mt List.map_eq_nil_iff.mp hne
    constructor
    · intro line hline
      obtain ⟨line, hmem, rfl⟩ := List.mem_map.mp hline
      apply isBlankLine_dropReturn (hblank line hmem)
    · rw [splitLines_unixNewlines_append hlf hnil, splitLines_unixNewlines_joinLines hnil hbelow]

/-! ### Lines as given and as read -/

/-- The line is read as `read`: it may end in a carriage return more. -/
def ReadsAs (line read : List Char) : Prop := line = read ∨ line = read ++ ['\r']

theorem readsAs_dropReturn (line : List Char) :
  ReadsAs line (dropReturn line)
  := by
  unfold dropReturn
  split
  · next hlast =>
    obtain ⟨rest, rfl⟩ := List.getLast?_eq_some_iff.mp hlast
    apply Or.inr
    rw [List.dropLast_concat]
  · apply Or.inl rfl

theorem ReadsAs.isBlankLine_eq {line read : List Char} (h : ReadsAs line read) :
  isBlankLine line = isBlankLine read
  := by
  rcases h with rfl | rfl
  · rfl
  · have hreturn : isBlank '\r' = true := by decide
    rw [isBlankLine, List.all_append, ← isBlankLine]
    simp [hreturn]

/-- All lines of a text but the last lose the carriage return that they may end in. -/
theorem exists_splitLines_unixNewlines (s : List Char) :
  ∃ front last, splitLines s = front ++ [last]
    ∧ splitLines (unixNewlines s) = front.map dropReturn ++ [last]
  := by
  have hne := splitLines_ne_nil s
  have hlines := List.dropLast_append_getLast hne
  have hlf : ∀ line ∈ splitLines s, '\n' ∉ line := fun line => not_mem_of_mem_splitLines
  have hlast := hlf _ (List.getLast_mem hne)
  use (splitLines s).dropLast, (splitLines s).getLast hne, hlines.symm
  have hread := splitLines_unixNewlines_append
    (fun line hline => hlf line (List.dropLast_subset _ hline))
    (List.cons_ne_nil ((splitLines s).getLast hne) [])
  rw [hlines, joinLines_splitLines, joinLines,
    unixNewlines_eq_self (not_hasReturnPair_of_not_mem hlast), splitLines_of_not_mem hlast] at hread
  apply hread

/-- Lines are blank as given exactly when they are blank as read. -/
theorem map_isBlankLine_splitLines (s : List Char) :
  (splitLines (unixNewlines s)).map isBlankLine = (splitLines s).map isBlankLine
  := by
  obtain ⟨front, last, hlines, hread⟩ := exists_splitLines_unixNewlines s
  rw [hlines, hread, List.map_append, List.map_append, List.map_map]
  congr 1
  apply List.map_congr_left
  intro line _
  apply (readsAs_dropReturn line).isBlankLine_eq.symm

/-- A line that is read has the same number in the text as given. -/
theorem exists_getElem?_splitLines {s read : List Char} {i : Nat}
    (h : (splitLines (unixNewlines s))[i]? = some read) :
  ∃ line, (splitLines s)[i]? = some line ∧ ReadsAs line read
  := by
  obtain ⟨front, last, hlines, hread⟩ := exists_splitLines_unixNewlines s
  rw [hread] at h
  rw [hlines]
  by_cases hi : i < front.length
  · rw [List.getElem?_append_left (by simpa using hi), List.getElem?_map,
      Option.map_eq_some_iff] at h
    obtain ⟨line, hline, rfl⟩ := h
    use line
    rw [List.getElem?_append_left hi]
    use hline, readsAs_dropReturn line
  · rw [List.getElem?_append_right (by simpa using hi), List.length_map] at h
    use read
    rw [List.getElem?_append_right (by omega)]
    use h, Or.inl rfl

end CommitPolicy.Text
