import CommitPolicy.Message.Parse
import CommitPolicy.Proofs.Text.Runs

/-!
# The grammar of header lines

A header line is a type, an optional scope in parentheses, an optional exclamation mark, a colon,
one blank character and a subject.  `Header.Spells` says that a line is written so, and it is
shown that

* reading a line gives a header exactly when the line spells that header;
* a line spells at most one header, with one character after the colon.
-/

namespace CommitPolicy.Header

open Text

/-! ### Writing a header -/

/-- A scope as a header line has it. -/
def scopeText : Option (List Char) → List Char
  | none => []
  | some scope => '(' :: scope ++ [')']

/-- The exclamation mark of a header line, if there is one. -/
def markerText (marker : Bool) : List Char := if marker then ['!'] else []

/-- A header as a line, with `gap` after the colon. -/
def toLine (h : Header) (gap : Char) : List Char :=
  h.type ++ (scopeText h.scope ++ (markerText h.marker ++ ':' :: gap :: h.subject))

/-- The part of a header line up to the colon. -/
def opening (h : Header) : List Char :=
  h.type ++ scopeText h.scope ++ markerText h.marker ++ [':']

theorem toLine_eq_opening (h : Header) (gap : Char) :
  h.toLine gap = h.opening ++ gap :: h.subject
  := by
  simp [toLine, opening]

/-- A scope that can be written: it is not empty and does not hold the closing parenthesis. -/
def IsScope (scope : List Char) : Prop := scope ≠ [] ∧ ')' ∉ scope

/-- A header whose parts can be written and read back. -/
structure WellFormed (h : Header) : Prop where
  type_ne_nil : h.type ≠ []
  type_chars : ∀ c ∈ h.type, isTypeChar c = true
  scope : ∀ scope ∈ h.scope, IsScope scope
  subject : ∃ c ∈ h.subject, isBlank c = false

/-- The line is written as the header, with `gap` after the colon. -/
structure Spells (h : Header) (gap : Char) (line : List Char) : Prop where
  wellFormed : h.WellFormed
  gap_blank : isBlank gap = true
  line_eq : line = h.toLine gap

/-! ### Reading the parts -/

theorem scope?_scopeText {scope : Option (List Char)} {rest : List Char}
    (hs : ∀ s ∈ scope, IsScope s) (hrest : rest.head? ≠ some '(') :
  scope? (scopeText scope ++ rest) = some (scope, rest)
  := by
  cases scope with
  | none =>
      rw [scopeText, List.nil_append, scope?]
      rintro tail rfl
      simp at hrest
  | some scope =>
      obtain ⟨hne, hparen⟩ := hs scope rfl
      obtain ⟨c, tail, rfl⟩ := List.exists_cons_of_ne_nil hne
      have hrun : ∀ d ∈ c :: tail, (d != ')') = true := by
        intro d hd
        simp only [bne_iff_ne]
        rintro rfl
        exact hparen hd
      have hstop : ∀ d ∈ (')' :: rest).head?, (d != ')') = false := by simp
      have htext : scopeText (some (c :: tail)) ++ rest = '(' :: ((c :: tail) ++ ')' :: rest) := by
        simp [scopeText]
      rw [htext, scope?, takeWhile_run hrun hstop, dropWhile_run hrun hstop]
      rfl

theorem scope?_eq_some {s rest : List Char} {scope : Option (List Char)}
    (h : scope? s = some (scope, rest)) :
  s = scopeText scope ++ rest ∧ ∀ k ∈ scope, IsScope k
  := by
  unfold scope? at h
  split at h
  · next tail =>
    split at h
    · next c k tail' htake hdrop =>
      obtain ⟨rfl, rfl⟩ := Prod.mk.inj (Option.some.inj h)
      constructor
      · rw [← List.takeWhile_append_dropWhile (p := (· != ')')) (l := tail), htake, hdrop]
        simp [scopeText]
      · rintro _ ⟨⟩
        constructor
        · apply List.cons_ne_nil
        · intro hk
          have := List.mem_takeWhile_imp (htake ▸ hk)
          simp at this
    · cases h
  · obtain ⟨rfl, rfl⟩ := Prod.mk.inj (Option.some.inj h)
    simp [scopeText]

theorem splitMarker_markerText {marker : Bool} {rest : List Char} (hrest : rest.head? ≠ some '!') :
  splitMarker (markerText marker ++ rest) = (marker, rest)
  := by
  cases marker with
  | false =>
      rw [markerText, if_neg Bool.false_ne_true, List.nil_append, splitMarker]
      rintro tail rfl
      simp at hrest
  | true => rfl

theorem markerText_splitMarker (s : List Char) :
  markerText (splitMarker s).1 ++ (splitMarker s).2 = s
  := by
  unfold splitMarker
  split
  · rfl
  · rfl

theorem subject?_eq_some_iff {s subject : List Char} :
  subject? s = some subject
    ↔ ∃ gap, s = ':' :: gap :: subject ∧ isBlank gap = true ∧ isBlankLine subject = false
  := by
  unfold subject?
  split
  · next c tail =>
    simp only [Option.ite_none_right_eq_some, Bool.and_eq_true, Bool.not_eq_true',
      Option.some.injEq, List.cons.injEq, true_and]
    constructor
    · rintro ⟨⟨hc, ht⟩, rfl⟩
      use c
    · rintro ⟨gap, ⟨rfl, rfl⟩, hgap, hs⟩
      use ⟨hgap, hs⟩
  · next hshape =>
    simp only [false_iff, not_exists, reduceCtorEq]
    rintro gap ⟨rfl, -⟩
    exact hshape _ _ rfl

/-! ### Reading a line -/

theorem head?_markerText (marker : Bool) (rest : List Char) :
  (markerText marker ++ ':' :: rest).head? = some (if marker then '!' else ':')
  := by
  cases marker with
  | false => rfl
  | true => rfl

theorem ofLine?_toLine {h : Header} (hw : h.WellFormed) {gap : Char} (hgap : isBlank gap = true) :
  ofLine? (h.toLine gap) = some h
  := by
  have htype : ∀ c ∈ (scopeText h.scope ++ (markerText h.marker ++ ':' :: gap :: h.subject)).head?,
      isTypeChar c = false := by
    cases h.scope with
    | none =>
        rw [scopeText, List.nil_append, head?_markerText]
        cases h.marker with
        | false => simp [isTypeChar]
        | true => simp [isTypeChar]
    | some scope => simp [scopeText, isTypeChar]
  have hscope : (markerText h.marker ++ ':' :: gap :: h.subject).head? ≠ some '(' := by
    rw [head?_markerText]
    cases h.marker with
    | false => decide
    | true => decide
  have hmarker : (':' :: gap :: h.subject).head? ≠ some '!' := by simp
  have hsubject := subject?_eq_some_iff.mpr
    ⟨gap, rfl, hgap, isBlankLine_eq_false_iff.mpr hw.subject⟩
  rw [ofLine?, toLine, takeWhile_run hw.type_chars htype, dropWhile_run hw.type_chars htype,
    scope?_scopeText hw.scope hscope]
  simp only [splitMarker_markerText hmarker, hsubject]
  simp [hw.type_ne_nil]

/-- A line is read as a header exactly when it spells that header. -/
theorem ofLine?_eq_some_iff {line : List Char} {h : Header} :
  ofLine? line = some h ↔ ∃ gap, h.Spells gap line
  := by
  constructor
  · intro hread
    unfold ofLine? at hread
    simp only at hread
    split at hread
    · cases hread
    · next htype =>
      split at hread
      · cases hread
      · next scope rest hscope =>
        obtain ⟨subject, hsubject, rfl⟩ := Option.map_eq_some_iff.mp hread
        obtain ⟨hrest, hs⟩ := scope?_eq_some hscope
        obtain ⟨gap, hmarker, hgap, hblank⟩ := subject?_eq_some_iff.mp hsubject
        use gap
        constructor
        · constructor
          · simpa using htype
          · intro c hc
            apply List.mem_takeWhile_imp hc
          · apply hs
          · apply isBlankLine_eq_false_iff.mp hblank
        · apply hgap
        · rw [toLine, ← hmarker, markerText_splitMarker, ← hrest, List.takeWhile_append_dropWhile]
  · rintro ⟨gap, hw, hgap, rfl⟩
    apply ofLine?_toLine hw hgap

instance (h : Header) : Decidable h.WellFormed :=
  decidable_of_iff (ofLine? (h.toLine ' ') = some h) <| by
    constructor
    · intro hread
      obtain ⟨gap, hspells⟩ := ofLine?_eq_some_iff.mp hread
      apply hspells.wellFormed
    · intro hw
      apply ofLine?_toLine hw (by decide)

theorem toLine_injective_gap {h : Header} {gap gap' : Char} (hl : h.toLine gap = h.toLine gap') :
  gap = gap'
  := by
  simpa [toLine_eq_opening] using hl

/-- A line spells one header at most, with one character after the colon. -/
theorem Spells.unique {h h' : Header} {gap gap' : Char} {line : List Char}
    (hs : h.Spells gap line) (hs' : h'.Spells gap' line) :
  h = h' ∧ gap = gap'
  := by
  have hread := ofLine?_eq_some_iff.mpr ⟨gap, hs⟩
  have hread' := ofLine?_eq_some_iff.mpr ⟨gap', hs'⟩
  obtain rfl : h = h' := Option.some.inj (hread.symm.trans hread')
  use rfl
  apply toLine_injective_gap (hs.line_eq.symm.trans hs'.line_eq)

end CommitPolicy.Header
