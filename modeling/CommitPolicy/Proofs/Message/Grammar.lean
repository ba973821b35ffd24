import CommitPolicy.Proofs.Message.Footer
import CommitPolicy.Proofs.Message.Header

/-!
# The grammar of commit messages

A message is read off its lines, without the blank lines at both ends: a header line comes first,
and unless all the other lines are footer lines, a blank line comes next.  It is shown that

* a text is read exactly when its lines are so, and otherwise the error names the first rule that
  they break;
* the header of a commit that is read is the only one that the first line spells.
-/

namespace CommitPolicy

open Text

/-- The line is a header line. -/
def Header.IsLine (line : List Char) : Prop := ∃ h gap, Spells h gap line

theorem Header.ofLine?_eq_none_iff {line : List Char} :
  ofLine? line = none ↔ ¬IsLine line
  := by
  rw [Option.eq_none_iff_forall_ne_some]
  simp only [IsLine, not_exists, ne_eq, ofLine?_eq_some_iff]

/-! ### Header and footer lines are not blank -/

theorem Footer.WellFormed.isBlankLine_toLine {f : Footer} (h : f.WellFormed) :
  isBlankLine f.toLine = false
  := by
  apply isBlankLine_eq_false_iff.mpr
  cases h with
  | colon hkey hvalue =>
      use ':'
      simp only [toLine_colon]
      simp
      decide
  | numberSign hkey hvalue =>
      use '#'
      simp only [toLine_numberSign]
      simp
      decide

theorem Footer.not_isLine_of_isBlankLine {line : List Char} (h : isBlankLine line = true) :
  ¬IsLine line
  := by
  rintro ⟨f, hf, rfl⟩
  rw [hf.isBlankLine_toLine] at h
  cases h

theorem Header.isBlankLine_toLine (h : Header) (gap : Char) :
  isBlankLine (h.toLine gap) = false
  := by
  apply isBlankLine_eq_false_iff.mpr
  use ':'
  simp [toLine]
  decide

theorem Header.IsLine.isBlankLine {line : List Char} (h : IsLine line) :
  Text.isBlankLine line = false
  := by
  obtain ⟨h, gap, hspells⟩ := h
  rw [hspells.line_eq]
  apply Header.isBlankLine_toLine

namespace Commit

/-- The lines below the header start with a line that is not blank, and one of them is no footer
line. -/
def LacksSeparator (below : List (List Char)) : Prop :=
  (∃ second ∈ below.head?, isBlankLine second = false) ∧ ∃ line ∈ below, ¬Footer.IsLine line

/-- The parts of the header of a commit. -/
def headerParts (c : Commit) : Header where
  type := c.type.toList
  scope := c.scope.map String.toList
  marker := c.breakingMarker
  subject := c.subject.toList

@[simp]
theorem headerParts_assemble (h : Header) (body : List (List Char)) (footers : List Footer)
    (refs : List TicketRef) :
  (assemble h body footers refs).headerParts = h
  := by
  obtain ⟨type, scope, marker, subject⟩ := h
  cases scope with
  | none => simp [assemble, headerParts]
  | some scope => simp [assemble, headerParts]

/-! ### Reading the lines below the header -/

/-- A message whose header is followed by a blank line, or by footer lines only, is divided. -/
theorem splitBody_of_not_lacksSeparator {below : List (List Char)} (h : ¬LacksSeparator below) :
  ∃ body footers, splitBody below = .ok (body, footers)
  := by
  cases below with
  | nil =>
      use [], []
      rfl
  | cons second rest =>
      by_cases hblank : isBlankLine second = true
      · use trimBlankLines (Footer.splitTrailing rest).1, (Footer.splitTrailing rest).2
        rw [splitBody, if_pos hblank]
      · have hlines : ¬∃ line ∈ second :: rest, ¬Footer.IsLine line := by
          intro hline
          apply h
          use ⟨second, rfl, Bool.not_eq_true _ ▸ hblank⟩
        obtain ⟨footers, hread⟩ :=
          Option.ne_none_iff_exists'.mp (mt Footer.mapM_ofLine?_eq_none_iff.mp hlines)
        use [], footers
        rw [splitBody, if_neg hblank, hread]

/-- The footers stand at the end of the lines below the header, as many of them as there are, and
the body is what remains of the lines above them without the blank lines at both ends. -/
theorem splitBody_spec {below body : List (List Char)} {footers : List Footer}
    (h : splitBody below = .ok (body, footers)) :
  ∃ above, below = above ++ footers.map Footer.toLine ∧ TrimsTo above body
    ∧ (∀ f ∈ footers, f.WellFormed) ∧ Footer.EndsAbove above
  := by
  unfold splitBody at h
  split at h
  · obtain ⟨rfl, rfl⟩ := Prod.mk.inj (Except.ok.inj h)
    use []
    simpa [Footer.EndsAbove] using trimsTo_nil
  · next second rest =>
    split at h
    · next hblank =>
      obtain ⟨rfl, rfl⟩ := Prod.mk.inj (Except.ok.inj h)
      obtain ⟨hlines, hfooters, hlast⟩ := @Footer.splitTrailing_spec rest _ _ rfl
      use second :: (Footer.splitTrailing rest).1
      refine ⟨congrArg (second :: ·) hlines, (trimsTo_trimBlankLines _).cons hblank, hfooters, ?_⟩
      by_cases hnil : (Footer.splitTrailing rest).1 = []
      · simpa [hnil, Footer.EndsAbove] using Footer.not_isLine_of_isBlankLine hblank
      · apply (Footer.endsAbove_cons hnil).mpr hlast
    · split at h
      · next footers' hread =>
        obtain ⟨rfl, rfl⟩ := Prod.mk.inj (Except.ok.inj h)
        obtain ⟨hfooters, hlines⟩ := Footer.mapM_ofLine?_eq_some_iff.mp hread
        use []
        refine ⟨hlines, trimsTo_nil, hfooters, ?_⟩
        simp [Footer.EndsAbove]
      · cases h

theorem splitBody_of_lacksSeparator {below : List (List Char)} (h : LacksSeparator below) :
  splitBody below = .error .missingBodySeparator
  := by
  obtain ⟨⟨second, hsecond, hblank⟩, hline⟩ := h
  obtain ⟨rest, rfl⟩ := List.head?_eq_some_iff.mp hsecond
  rw [splitBody, if_neg (by simp [hblank]), Footer.mapM_ofLine?_eq_none_iff.mpr hline]

/-! ### Reading a message -/

section Parse

variable {raw : String} {first : List Char} {below : List (List Char)}

theorem parse_of_messageLines_eq_nil (hlines : messageLines raw = []) :
  parse raw = .error .emptyMessage
  := by
  rw [parse, hlines]

theorem parse_of_not_isLine (hlines : messageLines raw = first :: below)
    (hfirst : ¬Header.IsLine first) :
  parse raw = .error (.malformedHeader (String.ofList first))
  := by
  rw [parse, hlines]
  simp only [Header.ofLine?_eq_none_iff.mpr hfirst]

theorem parse_of_lacksSeparator (hlines : messageLines raw = first :: below)
    (hfirst : Header.IsLine first) (hbelow : LacksSeparator below) :
  parse raw = .error .missingBodySeparator
  := by
  obtain ⟨h, hspells⟩ := hfirst
  rw [parse, hlines]
  simp only [Header.ofLine?_eq_some_iff.mpr hspells, splitBody_of_lacksSeparator hbelow]

theorem parse_of_spells (hlines : messageLines raw = first :: below) {h : Header} {gap : Char}
    (hspells : h.Spells gap first) {body : List (List Char)} {footers : List Footer}
    (hbelow : splitBody below = .ok (body, footers)) :
  parse raw = .ok (assemble h body footers (TicketRef.extract raw))
  := by
  rw [parse, hlines]
  simp only [Header.ofLine?_eq_some_iff.mpr ⟨gap, hspells⟩, hbelow]

theorem parse_of_not_lacksSeparator (hlines : messageLines raw = first :: below)
    (hfirst : Header.IsLine first) (hbelow : ¬LacksSeparator below) :
  ∃ c, parse raw = .ok c
  := by
  obtain ⟨h, gap, hspells⟩ := hfirst
  obtain ⟨body, footers, hsplit⟩ := splitBody_of_not_lacksSeparator hbelow
  use assemble h body footers (TicketRef.extract raw)
  apply parse_of_spells hlines hspells hsplit

end Parse

/-- What a commit that was read says of the message: its header is spelled by the first line, and
its body and footers are those of the lines below. -/
theorem exists_of_parse_eq_ok {raw : String} {c : Commit} (h : parse raw = .ok c) :
  ∃ first below gap body footers, messageLines raw = first :: below
    ∧ c.headerParts.Spells gap first ∧ splitBody below = .ok (body, footers)
    ∧ c = assemble c.headerParts body footers (TicketRef.extract raw)
  := by
  unfold parse at h
  split at h
  · cases h
  · next first below hlines =>
    split at h
    · cases h
    · next hd hread =>
      split at h
      · cases h
      · next body footers hsplit =>
        obtain rfl := Except.ok.inj h
        obtain ⟨gap, hspells⟩ := Header.ofLine?_eq_some_iff.mp hread
        use first, below, gap, body, footers
        simpa using ⟨hlines, hspells, hsplit⟩

/-- Every message is one of four kinds, by the first rule of the grammar that its lines break. -/
theorem parse_cases (raw : String) :
  (messageLines raw = [] ∧ parse raw = .error .emptyMessage)
    ∨ ∃ first below, messageLines raw = first :: below
      ∧ ((¬Header.IsLine first ∧ parse raw = .error (.malformedHeader (String.ofList first)))
        ∨ (Header.IsLine first ∧ LacksSeparator below
          ∧ parse raw = .error .missingBodySeparator)
        ∨ (Header.IsLine first ∧ ¬LacksSeparator below ∧ ∃ c, parse raw = .ok c))
  := by
  cases hlines : messageLines raw with
  | nil => apply Or.inl ⟨rfl, parse_of_messageLines_eq_nil hlines⟩
  | cons first below =>
      apply Or.inr
      use first, below, rfl
      by_cases hfirst : Header.IsLine first
      · by_cases hbelow : LacksSeparator below
        · apply Or.inr (Or.inl ⟨hfirst, hbelow, parse_of_lacksSeparator hlines hfirst hbelow⟩)
        · apply Or.inr (Or.inr ⟨hfirst, hbelow, parse_of_not_lacksSeparator hlines hfirst hbelow⟩)
      · apply Or.inl ⟨hfirst, parse_of_not_isLine hlines hfirst⟩

theorem parse_eq_emptyMessage_iff (raw : String) :
  parse raw = .error .emptyMessage ↔ messageLines raw = []
  := by
  rcases parse_cases raw with
    ⟨hlines, hparse⟩ | ⟨_, _, hlines, ⟨-, hparse⟩ | ⟨-, -, hparse⟩ | ⟨-, -, _, hparse⟩⟩
  · simp [hlines, hparse]
  · simp [hlines, hparse]
  · simp [hlines, hparse]
  · simp [hlines, hparse]

theorem parse_eq_malformedHeader_iff (raw : String) :
  (∃ text, parse raw = .error (.malformedHeader text))
    ↔ ∃ first below, messageLines raw = first :: below ∧ ¬Header.IsLine first
  := by
  rcases parse_cases raw with
    ⟨hlines, hparse⟩
      | ⟨_, _, hlines, ⟨hfirst, hparse⟩ | ⟨hfirst, -, hparse⟩ | ⟨hfirst, -, _, hparse⟩⟩
  · simp [hlines, hparse]
  · simp [hlines, hparse, hfirst]
  · simp [hlines, hparse, hfirst]
  · simp [hlines, hparse, hfirst]

theorem parse_eq_missingBodySeparator_iff (raw : String) :
  parse raw = .error .missingBodySeparator
    ↔ ∃ first below, messageLines raw = first :: below ∧ Header.IsLine first
      ∧ LacksSeparator below
  := by
  rcases parse_cases raw with
    ⟨hlines, hparse⟩
      | ⟨_, _, hlines, ⟨hfirst, hparse⟩ | ⟨hfirst, hbelow, hparse⟩ | ⟨hfirst, hbelow, _, hparse⟩⟩
  · simp [hlines, hparse]
  · simp [hlines, hparse, hfirst]
  · simp [hlines, hparse, hfirst, hbelow]
  · simp [hlines, hparse, hbelow]

theorem exists_parse_eq_ok_iff (raw : String) :
  (∃ c, parse raw = .ok c)
    ↔ ∃ first below, messageLines raw = first :: below ∧ Header.IsLine first
      ∧ ¬LacksSeparator below
  := by
  rcases parse_cases raw with
    ⟨hlines, hparse⟩
      | ⟨_, _, hlines, ⟨hfirst, hparse⟩ | ⟨hfirst, hbelow, hparse⟩ | ⟨hfirst, hbelow, _, hparse⟩⟩
  · simp [hlines, hparse]
  · simp [hlines, hparse, hfirst]
  · simp [hlines, hparse, hbelow]
  · simp [hlines, hparse, hfirst, hbelow]

/-- A text is read exactly when its lines follow the grammar, and otherwise the first rule that they
break decides the error.  The header of the commit that is read is the only one that its line
spells. -/
theorem parse_follows_grammar (raw : String) :
  TrimsTo (splitLines (unixNewlines raw.toList)) (messageLines raw)
    ∧ (parse raw = .error .emptyMessage ↔ messageLines raw = [])
    ∧ ((∃ text, parse raw = .error (.malformedHeader text))
      ↔ ∃ first below, messageLines raw = first :: below ∧ ¬Header.IsLine first)
    ∧ (parse raw = .error .missingBodySeparator
      ↔ ∃ first below, messageLines raw = first :: below ∧ Header.IsLine first
        ∧ LacksSeparator below)
    ∧ ((∃ c, parse raw = .ok c)
      ↔ ∃ first below, messageLines raw = first :: below ∧ Header.IsLine first
        ∧ ¬LacksSeparator below)
    ∧ (∀ c, parse raw = .ok c → ∃ first below gap, messageLines raw = first :: below
      ∧ c.headerParts.Spells gap first)
    ∧ ∀ line h gap h' gap', Header.Spells h gap line → Header.Spells h' gap' line →
      h = h' ∧ gap = gap'
  := by
  refine ⟨trimsTo_trimBlankLines _, parse_eq_emptyMessage_iff raw, parse_eq_malformedHeader_iff raw,
    parse_eq_missingBodySeparator_iff raw, exists_parse_eq_ok_iff raw, ?_, ?_⟩
  · intro c hparse
    obtain ⟨first, below, gap, -, -, hlines, hspells, -, -⟩ := exists_of_parse_eq_ok hparse
    use first, below, gap
  · intro line h gap h' gap' hspells hspells'
    apply hspells.unique hspells'

end Commit

end CommitPolicy
