import CommitPolicy.Message.Ticket
import CommitPolicy.Proofs.Text.Runs

/-!
# References and layout

A reference holds no blank character, and whether one is read at a place depends on nothing behind
the next blank character.  So the references of a text are those of its words, and two texts with
the same words have the same references.
-/

namespace CommitPolicy.TicketRef

open Text

/-! ### Reading in front of a blank character -/

theorem isProjectChar_eq_inRanges (c : Char) :
  isProjectChar c = inRanges [(0x30, 0x39), (0x41, 0x5A)] c.toNat
  := by
  have h0 : '0'.val.toNat = 0x30 := rfl
  have h9 : '9'.val.toNat = 0x39 := rfl
  have hA : 'A'.val.toNat = 0x41 := rfl
  have hZ : 'Z'.val.toNat = 0x5A := rfl
  have hc : c.toNat = c.val.toNat := rfl
  simp only [isProjectChar, isCapital, isAsciiDigit, inRanges, Char.le_def,
    UInt32.le_iff_toNat_le, h0, h9, hA, hZ, hc]
  rw [Bool.eq_iff_iff]
  simp
  omega

section Blank

variable {b : Char} (hb : isBlank b = true)
include hb

theorem ne_of_isBlank {c : Char} (hc : isBlank c = false) :
  b ≠ c
  := by
  rintro rfl
  rw [hb] at hc
  cases hc

theorem isProjectChar_of_isBlank :
  isProjectChar b = false
  := by
  rw [isProjectChar_eq_inRanges]
  apply inRanges_eq_false_of_disjoint (by decide) hb

theorem endsWord_append (s t : List Char) :
  endsWord (s ++ b :: t) = endsWord s
  := by
  cases s with
  | nil => simp [endsWord, isWordChar_of_isBlank hb]
  | cons c s => rfl

theorem digits?_append (s t : List Char) :
  digits? (s ++ b :: t) = (digits? s).map fun (ds, rest) => (ds, rest ++ b :: t)
  := by
  have hdigit := isDigit_of_isBlank hb
  rw [digits?, digits?, takeWhile_append_stop hdigit, dropWhile_append_stop hdigit]
  simp only
  split
  · rfl
  · rfl

theorem wholeNumber?_append (s t : List Char) :
  wholeNumber? (s ++ b :: t) = wholeNumber? s
  := by
  rw [wholeNumber?, wholeNumber?, digits?_append hb]
  cases digits? s with
  | none => rfl
  | some r => simp [endsWord_append hb]

theorem key?_append (s t : List Char) :
  key? (s ++ b :: t) = (key? s).map fun (key, ds, rest) => (key, ds, rest ++ b :: t)
  := by
  have hproject := isProjectChar_of_isBlank hb
  have hcapital : isCapital b = false := (Bool.or_eq_false_iff.mp hproject).1
  match s with
  | [] =>
      cases t with
      | nil => rfl
      | cons d t => simp [key?, hcapital]
  | [c] => simp [key?, hcapital]
  | c :: d :: s =>
      rw [List.cons_append, List.cons_append, key?, key?, takeWhile_append_stop hproject,
        dropWhile_append_stop hproject]
      simp only
      split
      · split
        · cases s.dropWhile isProjectChar with
          | nil => simp [ne_of_isBlank hb (c := '-') (by decide)]
          | cons e rest =>
              by_cases he : e = '-'
              · subst he
                simp only [List.cons_append, digits?_append hb]
                cases digits? rest with
                | none => rfl
                | some r => rfl
              · simp [he]
        · rfl
      · rfl

theorem github?_append (before : Option Char) (s t : List Char) :
  github? before (s ++ b :: t) = github? before s
  := by
  have hG := ne_of_isBlank hb (c := 'G') (by decide)
  have hH := ne_of_isBlank hb (c := 'H') (by decide)
  have hdash := ne_of_isBlank hb (c := '-') (by decide)
  have hsign := ne_of_isBlank hb (c := '#') (by decide)
  match s with
  | [] => simp [github?, hG, hsign]
  | [c] =>
      by_cases hc : c = '#'
      · have := wholeNumber?_append hb [] t
        simp_all [github?]
      · simp [github?, hc, hH]
  | [c, d] =>
      by_cases hc : c = '#'
      · have := wholeNumber?_append hb [d] t
        simp_all [github?]
      · simp [github?, hc, hdash]
  | c :: d :: e :: s =>
      by_cases hc : c = '#'
      · have := wholeNumber?_append hb (d :: e :: s) t
        simp_all [github?]
      · by_cases hw : c = 'G' ∧ d = 'H' ∧ e = '-'
        · obtain ⟨rfl, rfl, rfl⟩ := hw
          simp [github?, wholeNumber?_append hb]
        · have hother : ∀ s, github? before (c :: d :: e :: s) = none := by
            intro s
            unfold github?
            split
            · simp_all
            · simp_all
            · rfl
          simp only [List.cons_append, hother]

theorem generic?_append (s t : List Char) :
  generic? (s ++ b :: t) = generic? s
  := by
  cases s with
  | nil =>
      have := ne_of_isBlank hb (c := '[') (by decide)
      simp [generic?, this]
  | cons c s =>
      by_cases hc : c = '['
      · subst hc
        rw [List.cons_append, generic?, generic?, key?_append hb]
        match key? s with
        | none => rfl
        | some (key, ds, []) =>
            have := ne_of_isBlank hb (c := ']') (by decide)
            simp [this]
        | some (key, ds, d :: rest) =>
            by_cases hd : d = ']'
            · simp [hd]
            · simp [hd]
      · simp [generic?, hc]

theorem jira?_append (before : Option Char) (s t : List Char) :
  jira? before (s ++ b :: t) = jira? before s
  := by
  rw [jira?, jira?, key?_append hb]
  cases key? s with
  | none => rfl
  | some r => simp [endsWord_append hb]

theorem github?_after (s : List Char) :
  github? (some b) s = github? none s
  := by
  have hand := ne_of_isBlank hb (c := '&') (by decide)
  have hword := isWordChar_of_isBlank hb
  unfold github?
  split
  · simp [hand, hword, startsWord]
  · simp [hword, startsWord]
  · rfl

theorem jira?_after (s : List Char) :
  jira? (some b) s = jira? none s
  := by
  simp [jira?, startsWord, isWordChar_of_isBlank hb]

end Blank

/-! ### Reading word by word -/

/-- A form that reads the text on either side of a blank character by itself. -/
structure ReadsWords (form : Option Char → List Char → Option TicketRef) : Prop where
  nil : ∀ before, form before [] = none
  append : ∀ b, isBlank b = true → ∀ before s t, form before (s ++ b :: t) = form before s
  after : ∀ b, isBlank b = true → ∀ s, form (some b) s = form none s

theorem readsWords_github? :
  ReadsWords github?
  where
    nil _ := rfl
    append _ hb := github?_append hb
    after _ hb := github?_after hb

theorem readsWords_generic? :
  ReadsWords fun _ => generic?
  where
    nil _ := rfl
    append _ hb _ := generic?_append hb
    after _ _ _ := rfl

theorem readsWords_jira? :
  ReadsWords jira?
  where
    nil before := by simp [jira?, key?]
    append _ hb := jira?_append hb
    after _ hb := jira?_after hb

section Words

variable {form : Option Char → List Char → Option TicketRef} (hform : ReadsWords form)
include hform

theorem occurrences_append {b : Char} (hb : isBlank b = true) (before : Option Char)
    (s t : List Char) :
  occurrences form before (s ++ b :: t) = occurrences form before s ++ occurrences form none t
  := by
  induction s generalizing before with
  | nil =>
      have hnone : form before (b :: t) = none := by
        rw [← List.nil_append (b :: t), hform.append b hb, hform.nil]
      -- The character in front of `t` is blank, which no form tells from the start of a text.
      have hrest : occurrences form (some b) t = occurrences form none t := by
        cases t with
        | nil => rfl
        | cons c t => rw [occurrences, occurrences, hform.after b hb]
      simp [occurrences, hnone, hrest]
  | cons c s ih =>
      rw [List.cons_append, occurrences, occurrences, ih, ← List.cons_append, hform.append b hb,
        List.append_assoc]

theorem occurrences_eq_flatMap_words (s : List Char) :
  occurrences form none s = (words s).flatMap (occurrences form none)
  := by
  apply eq_flatMap_words
  · rfl
  · intro b hb s t
    apply occurrences_append hform hb

theorem occurrences_eq_of_words {s t : List Char} (h : words s = words t) :
  occurrences form none s = occurrences form none t
  := by
  rw [occurrences_eq_flatMap_words hform s, occurrences_eq_flatMap_words hform t, h]

end Words

/-- Two texts with the same words have the same references. -/
theorem extract_eq_of_words {s t : String} (h : words s.toList = words t.toList) :
  extract s = extract t
  := by
  simp only [extract, occurrences_eq_of_words readsWords_github? h,
    occurrences_eq_of_words readsWords_generic? h, occurrences_eq_of_words readsWords_jira? h]

end CommitPolicy.TicketRef
