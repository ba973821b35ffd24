import CommitPolicy.Message.Footer
import CommitPolicy.Proofs.Text.Runs

/-!
# The grammar of footer lines

A footer line is `Key: value` with a value that is not blank, or `Key #123` with decimal digits.
`Footer.WellFormed` says which footers have such a line, and it is shown that

* reading a line gives a footer exactly when the footer is well formed and the line is its format;
* the footers at the end of lines are the longest run of footer lines there.
-/

namespace CommitPolicy.Footer

open Text

/-! ### Footers that can be written -/

/-- A key of letters and hyphens. -/
def IsToken (key : List Char) : Prop := key ≠ [] ∧ ∀ c ∈ key, isKeyChar c = true

/-- A value that is not blank. -/
def IsValue (value : List Char) : Prop := ∃ c ∈ value, isBlank c = false

/-- One or more decimal digits. -/
def IsNumber (value : List Char) : Prop := value ≠ [] ∧ ∀ c ∈ value, isDigit c = true

/-- A footer that has a footer line. -/
inductive WellFormed : Footer → Prop where
  | colon {key value : String}
      (hkey : key = breakingKey ∨ IsToken key.toList) (hvalue : IsValue value.toList) :
      WellFormed ⟨key, value, ": "⟩
  | numberSign {key value : String}
      (hkey : IsToken key.toList) (hvalue : IsNumber value.toList) :
      WellFormed ⟨key, value, " #"⟩

/-- The line of a footer. -/
def toLine (f : Footer) : List Char := f.format.toList

@[simp]
theorem toLine_colon (key value : String) :
  toLine ⟨key, value, ": "⟩ = key.toList ++ ':' :: ' ' :: value.toList
  := by
  simp [toLine, format]

@[simp]
theorem toLine_numberSign (key value : String) :
  toLine ⟨key, value, " #"⟩ = key.toList ++ ' ' :: '#' :: value.toList
  := by
  simp [toLine, format]

/-! ### Reading what follows the key -/

theorem ofColon?_eq_some_iff {key rest : List Char} {f : Footer} :
  ofColon? key rest = some f
    ↔ ∃ value, rest = ':' :: ' ' :: value ∧ IsValue value
        ∧ f = ⟨String.ofList key, String.ofList value, ": "⟩
  := by
  unfold ofColon?
  split
  · next value =>
    have hvalue : IsValue value ↔ ¬isBlankLine value = true := by
      rw [Bool.not_eq_true, isBlankLine_eq_false_iff, IsValue]
    constructor
    · intro h
      obtain ⟨hblank, hf⟩ := Option.ite_none_left_eq_some.mp h
      use value, rfl, hvalue.mpr hblank
      apply (Option.some.inj hf).symm
    · rintro ⟨_, ⟨⟩, hv, rfl⟩
      rw [if_neg (hvalue.mp hv)]
  · next hshape =>
    simp only [reduceCtorEq, false_iff, not_exists]
    rintro value ⟨rfl, -⟩
    exact hshape _ rfl

theorem ofNumberSign?_eq_some_iff {key rest : List Char} {f : Footer} :
  ofNumberSign? key rest = some f
    ↔ ∃ value, rest = ' ' :: '#' :: value ∧ IsNumber value
        ∧ f = ⟨String.ofList key, String.ofList value, " #"⟩
  := by
  unfold ofNumberSign?
  split
  · next value =>
    have hvalue : IsNumber value ↔ (!value.isEmpty && value.all isDigit) = true := by
      simp [IsNumber]
    constructor
    · intro h
      obtain ⟨hnumber, hf⟩ := Option.ite_none_right_eq_some.mp h
      use value, rfl, hvalue.mpr hnumber
      apply (Option.some.inj hf).symm
    · rintro ⟨_, ⟨⟩, hv, rfl⟩
      rw [if_pos (hvalue.mp hv)]
  · next hshape =>
    simp only [reduceCtorEq, false_iff, not_exists]
    rintro value ⟨rfl, -⟩
    exact hshape _ rfl

/-! ### Reading a line -/

theorem ofToken?_append {key rest : List Char} (hkey : IsToken key)
    (hrest : ∀ c ∈ rest.head?, isKeyChar c = false) :
  ofToken? (key ++ rest) = (ofColon? key rest).or (ofNumberSign? key rest)
  := by
  rw [ofToken?, takeWhile_run hkey.2 hrest, dropWhile_run hkey.2 hrest]
  apply if_neg
  simpa using hkey.1

theorem exists_of_ofToken?_eq_some {line : List Char} {f : Footer} (h : ofToken? line = some f) :
  ∃ key rest, line = key ++ rest ∧ IsToken key
    ∧ (ofColon? key rest = some f ∨ ofNumberSign? key rest = some f)
  := by
  rw [ofToken?] at h
  obtain ⟨hne, hf⟩ := Option.ite_none_left_eq_some.mp h
  use line.takeWhile isKeyChar, line.dropWhile isKeyChar
  refine ⟨?_, ?_, ?_⟩
  · rw [List.takeWhile_append_dropWhile]
  · constructor
    · simpa using hne
    · intro c hc
      apply List.mem_takeWhile_imp hc
  · rcases Option.or_eq_some_iff.mp hf with hc | ⟨-, hn⟩
    · apply Or.inl hc
    · apply Or.inr hn

/-- The breaking key is a token and what stands behind the space. -/
theorem toList_breakingKey :
  breakingKey.toList = "BREAKING".toList ++ ' ' :: 'C' :: "HANGE".toList
  := rfl

/-- A line in which a token is followed by a separator does not open with the breaking key: there
a space and a letter follow the token. -/
theorem not_breakingKey_isPrefixOf {key rest : List Char} {x y : Char} (hkey : IsToken key)
    (hx : isKeyChar x = false) (hy : y ≠ 'C') :
  ¬breakingKey.toList.isPrefixOf (key ++ x :: y :: rest) = true
  := by
  intro hprefix
  obtain ⟨tail, htail⟩ := List.isPrefixOf_iff_prefix.mp hprefix
  have hword : ∀ c ∈ "BREAKING".toList, isKeyChar c = true := List.all_eq_true.mp rfl
  have hrest : x :: y :: rest = ' ' :: 'C' :: ("HANGE".toList ++ tail) := by
    rw [← dropWhile_run (b := x :: y :: rest) hkey.2 (by simp [hx]), ← htail, toList_breakingKey,
      List.append_assoc, dropWhile_run hword (by simp [isKeyChar, isAsciiLetter])]
    rfl
  apply hy
  injection hrest with _ hrest
  injection hrest

theorem ofLine?_eq_ofToken? {line : List Char} (h : ¬breakingKey.toList.isPrefixOf line = true) :
  ofLine? line = ofToken? line
  := by
  rw [ofLine?, if_neg h]

theorem ofLine?_toLine {f : Footer} (hf : f.WellFormed) :
  ofLine? f.toLine = some f
  := by
  cases hf with
  | @colon key value hkey hvalue =>
      have hcolon : ofColon? key.toList (':' :: ' ' :: value.toList) = some ⟨key, value, ": "⟩ := by
        apply ofColon?_eq_some_iff.mpr
        use value.toList, rfl, hvalue
        simp
      rw [toLine_colon]
      rcases hkey with rfl | hkey
      · rw [ofLine?, if_pos (List.isPrefixOf_iff_prefix.mpr (List.prefix_append _ _)),
          ← String.length_toList, List.drop_left, hcolon]
        rfl
      · rw [ofLine?_eq_ofToken? (not_breakingKey_isPrefixOf hkey (by decide) (by decide)),
          ofToken?_append hkey (by simp [isKeyChar, isAsciiLetter]), hcolon]
        rfl
  | @numberSign key value hkey hvalue =>
      have hnumber :
          ofNumberSign? key.toList (' ' :: '#' :: value.toList) = some ⟨key, value, " #"⟩ := by
        apply ofNumberSign?_eq_some_iff.mpr
        use value.toList, rfl, hvalue
        simp
      rw [toLine_numberSign,
        ofLine?_eq_ofToken? (not_breakingKey_isPrefixOf hkey (by decide) (by decide)),
        ofToken?_append hkey (by simp [isKeyChar, isAsciiLetter]), hnumber]
      rfl

theorem wellFormed_of_ofColon? {key rest : List Char} {f : Footer}
    (hkey : key = breakingKey.toList ∨ IsToken key) (h : ofColon? key rest = some f) :
  f.WellFormed ∧ key ++ rest = f.toLine
  := by
  obtain ⟨value, rfl, hvalue, rfl⟩ := ofColon?_eq_some_iff.mp h
  constructor
  · apply WellFormed.colon
    · rcases hkey with rfl | hkey
      · simp
      · simpa using Or.inr hkey
    · simpa using hvalue
  · simp

theorem wellFormed_of_ofNumberSign? {key rest : List Char} {f : Footer}
    (hkey : IsToken key) (h : ofNumberSign? key rest = some f) :
  f.WellFormed ∧ key ++ rest = f.toLine
  := by
  obtain ⟨value, rfl, hvalue, rfl⟩ := ofNumberSign?_eq_some_iff.mp h
  constructor
  · apply WellFormed.numberSign
    · simpa using hkey
    · simpa using hvalue
  · simp

theorem wellFormed_of_ofToken? {line : List Char} {f : Footer} (h : ofToken? line = some f) :
  f.WellFormed ∧ line = f.toLine
  := by
  obtain ⟨key, rest, rfl, hkey, hc | hn⟩ := exists_of_ofToken?_eq_some h
  · apply wellFormed_of_ofColon? (Or.inr hkey) hc
  · apply wellFormed_of_ofNumberSign? hkey hn

/-- A line is read as a footer exactly when the footer is well formed and the line is its line. -/
theorem ofLine?_eq_some_iff {line : List Char} {f : Footer} :
  ofLine? line = some f ↔ f.WellFormed ∧ line = f.toLine
  := by
  constructor
  · intro h
    by_cases hprefix : breakingKey.toList.isPrefixOf line = true
    · obtain ⟨rest, rfl⟩ := List.isPrefixOf_iff_prefix.mp hprefix
      rw [ofLine?, if_pos hprefix, ← String.length_toList, List.drop_left] at h
      rcases Option.or_eq_some_iff.mp h with hc | ⟨-, ht⟩
      · apply wellFormed_of_ofColon? (Or.inl rfl) hc
      · apply wellFormed_of_ofToken? ht
    · rw [ofLine?_eq_ofToken? hprefix] at h
      apply wellFormed_of_ofToken? h
  · rintro ⟨hf, rfl⟩
    apply ofLine?_toLine hf

instance (f : Footer) : Decidable f.WellFormed :=
  decidable_of_iff (ofLine? f.toLine = some f) <| by
    rw [ofLine?_eq_some_iff, and_iff_left rfl]

/-- The line is a footer line. -/
def IsLine (line : List Char) : Prop := ∃ f : Footer, f.WellFormed ∧ line = f.toLine

theorem ofLine?_eq_none_iff {line : List Char} :
  ofLine? line = none ↔ ¬IsLine line
  := by
  rw [Option.eq_none_iff_forall_ne_some]
  simp only [IsLine, not_exists, ne_eq, ofLine?_eq_some_iff]

instance (line : List Char) : Decidable (IsLine line) :=
  decidable_of_iff (ofLine? line ≠ none) <| by
    rw [ne_eq, ofLine?_eq_none_iff, not_not]

/-! ### Footers at the end of lines -/

theorem mapM_ofLine?_eq_some_iff {lines : List (List Char)} {footers : List Footer} :
  lines.mapM ofLine? = some footers
    ↔ (∀ f ∈ footers, f.WellFormed) ∧ lines = footers.map toLine
  := by
  induction lines generalizing footers with
  | nil => cases footers <;> simp
  | cons line rest ih =>
      simp only [List.mapM_cons, Option.bind_eq_bind, Option.bind_eq_some_iff, Option.pure_def,
        Option.some.injEq, ofLine?_eq_some_iff, ih]
      constructor
      · rintro ⟨f, ⟨hf, rfl⟩, fs, ⟨hfs, rfl⟩, rfl⟩
        simpa using ⟨hf, hfs⟩
      · rintro ⟨hw, hlines⟩
        cases footers with
        | nil => simp at hlines
        | cons f fs =>
            obtain ⟨rfl, rfl⟩ := List.cons.inj hlines
            obtain ⟨hf, hfs⟩ := List.forall_mem_cons.mp hw
            use f, ⟨hf, rfl⟩, fs, ⟨hfs, rfl⟩

/-- Not all lines are read as footers exactly when one of them is no footer line. -/
theorem mapM_ofLine?_eq_none_iff {lines : List (List Char)} :
  lines.mapM ofLine? = none ↔ ∃ line ∈ lines, ¬IsLine line
  := by
  induction lines with
  | nil => simp
  | cons line rest ih =>
      rw [List.exists_mem_cons_iff, ← ih, ← ofLine?_eq_none_iff, List.mapM_cons]
      cases ofLine? line with
      | none => simp
      | some f =>
          cases rest.mapM ofLine? with
          | none => simp
          | some fs => simp

/-- The lines above the footers end in a line that is no footer line, if there are any. -/
def EndsAbove (above : List (List Char)) : Prop := ∀ line ∈ above.getLast?, ¬IsLine line

instance (above : List (List Char)) : Decidable (EndsAbove above) :=
  inferInstanceAs (Decidable (∀ line ∈ above.getLast?, ¬IsLine line))

theorem endsAbove_cons {line : List Char} {above : List (List Char)} (hne : above ≠ []) :
  EndsAbove (line :: above) ↔ EndsAbove above
  := by
  rw [EndsAbove, List.getLast?_cons_of_ne_nil hne, EndsAbove]

/-- The footers at the end of lines are well formed, their lines stand below the lines above, and
no footer line comes next. -/
theorem splitTrailing_spec {lines above : List (List Char)} {footers : List Footer}
    (h : splitTrailing lines = (above, footers)) :
  lines = above ++ footers.map toLine ∧ (∀ f ∈ footers, f.WellFormed) ∧ EndsAbove above
  := by
  induction lines generalizing above footers with
  | nil =>
      obtain ⟨rfl, rfl⟩ := Prod.mk.inj h
      simp [EndsAbove]
  | cons line rest ih =>
      rw [splitTrailing] at h
      split at h
      · next fs hrest =>
        obtain ⟨hlines, hfs, -⟩ := ih hrest
        split at h
        · next f hf =>
          obtain ⟨rfl, rfl⟩ := Prod.mk.inj h
          obtain ⟨hw, rfl⟩ := ofLine?_eq_some_iff.mp hf
          refine ⟨?_, List.forall_mem_cons.mpr ⟨hw, hfs⟩, ?_⟩
          · simp [hlines]
          · simp [EndsAbove]
        · next hnone =>
          obtain ⟨rfl, rfl⟩ := Prod.mk.inj h
          refine ⟨?_, hfs, ?_⟩
          · simp [hlines]
          · simpa [EndsAbove] using ofLine?_eq_none_iff.mp hnone
      · next above' fs hne hrest =>
        obtain ⟨rfl, rfl⟩ := Prod.mk.inj h
        obtain ⟨hlines, hfs, hlast⟩ := ih hrest
        refine ⟨?_, hfs, ?_⟩
        · rw [hlines]
          rfl
        · apply (endsAbove_cons hne).mpr hlast

theorem splitTrailing_map_toLine {footers : List Footer} (h : ∀ f ∈ footers, f.WellFormed) :
  splitTrailing (footers.map toLine) = ([], footers)
  := by
  induction footers with
  | nil => rfl
  | cons f fs ih =>
      obtain ⟨hf, hfs⟩ := List.forall_mem_cons.mp h
      rw [List.map_cons, splitTrailing, ih hfs]
      simp only [ofLine?_toLine hf]

/-- Footer lines below lines that do not end in one are the footers at the end. -/
theorem splitTrailing_append {above : List (List Char)} {footers : List Footer}
    (hfooters : ∀ f ∈ footers, f.WellFormed) (habove : EndsAbove above) :
  splitTrailing (above ++ footers.map toLine) = (above, footers)
  := by
  induction above with
  | nil => apply splitTrailing_map_toLine hfooters
  | cons line above ih =>
      rw [List.cons_append, splitTrailing]
      cases above with
      | nil =>
          have hline : ofLine? line = none := ofLine?_eq_none_iff.mpr (habove line rfl)
          rw [List.nil_append, splitTrailing_map_toLine hfooters]
          simp only [hline]
      | cons next above =>
          rw [ih ((endsAbove_cons (List.cons_ne_nil next above)).mp habove)]

end CommitPolicy.Footer
