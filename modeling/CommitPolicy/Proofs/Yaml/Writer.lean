import CommitPolicy.Proofs.Text.Numerals
import CommitPolicy.Yaml.Writer
import Mathlib.Tactic.Use

/-!
# What documents are written in

A document is written in line feeds and ASCII characters that show: texts with other characters are
written with escapes, and an escape consists of a backslash, letters and digits.  So there are no
carriage returns that could be read as line breaks.
-/

namespace CommitPolicy.Yaml

open Text

/-- All characters are line feeds or ASCII characters that show. -/
def Simple (s : List Char) : Prop := ∀ c ∈ s, isSimple c = true

section Simple

variable {c : Char} {s t : List Char}

theorem Simple.of_all (h : s.all isSimple = true) :
  Simple s
  := List.all_eq_true.mp h

theorem Simple.nil :
  Simple []
  := by
  rintro c ⟨⟩

theorem Simple.cons (hc : isSimple c = true) (hs : Simple s) :
  Simple (c :: s)
  := List.forall_mem_cons.mpr ⟨hc, hs⟩

theorem Simple.append (hs : Simple s) (ht : Simple t) :
  Simple (s ++ t)
  := List.forall_mem_append.mpr ⟨hs, ht⟩

theorem simple_margin (indent : Nat) :
  Simple (margin indent)
  := by
  intro c hc
  rw [List.eq_of_mem_replicate hc]
  rfl

end Simple

/-! ### Escapes -/

theorem simple_capitalHex (width n : Nat) :
  Simple (capitalHex width n)
  := by
  have hdigit : ∀ d < 16, isSimple (hexDigit d).toUpper = true := by decide
  induction width generalizing n with
  | zero => apply Simple.nil
  | succ width ih =>
      rw [capitalHex, hexDigits, List.map_append]
      apply (ih (n / 16)).append
      apply Simple.cons (hdigit _ (Nat.mod_lt n (by decide))) .nil

/-- The letter for a character is not a tab, as there is another one for tabs. -/
theorem isSimple_of_find? {n : Nat} {e : Char × Nat}
    (h : (escapes.find? fun e => e.2 == n) = some e) :
  isSimple e.1 = true
  := by
  have hletters : ∀ e ∈ escapes, isSimple e.1 = true ∨ e.2 = 9 := by decide
  rcases hletters e (List.mem_of_find?_eq_some h) with hsimple | htab
  · apply hsimple
  · have hn := List.find?_some h
    rw [htab] at hn
    obtain rfl : 9 = n := eq_of_beq hn
    obtain rfl : ('t', 9) = e := Option.some.inj h
    rfl

theorem simple_escapeOf (c : Char) :
  Simple (escapeOf c)
  := by
  unfold escapeOf
  split
  · next letter _ h => apply Simple.cons rfl (.cons (isSimple_of_find? h) .nil)
  · split
    · apply Simple.cons rfl (.cons rfl (simple_capitalHex _ _))
    · split
      · apply Simple.cons rfl (.cons rfl (simple_capitalHex _ _))
      · apply Simple.cons rfl (.cons rfl (simple_capitalHex _ _))

theorem simple_escapedBreak (indent : Nat) (next : Option Char) :
  Simple (escapedBreak indent next)
  := by
  apply Simple.append
  · apply Simple.cons rfl (.cons rfl (simple_margin indent))
  · split
    · apply Simple.cons rfl .nil
    · apply Simple.nil

theorem isSimple_of_needsEscape {c : Char} (h : ¬ needsEscape c = true) :
  isSimple c = true
  := by
  simp only [needsEscape, Bool.or_eq_true, decide_eq_true_eq, not_or, Char.not_lt] at h
  simp [isSimple, h.1.2, h.2]

/-! ### Texts -/

theorem simple_writeEscaped (indent column : Nat) (inside escaped : Bool) (s : List Char) :
  Simple (writeEscaped indent column inside escaped s)
  := by
  induction s generalizing column inside escaped with
  | nil => apply Simple.nil
  | cons c rest ih =>
      unfold writeEscaped
      dsimp only
      split
      · split
        · apply ((simple_escapeOf c).append (simple_escapedBreak _ _)).append (ih _ _ _)
        · apply (simple_escapeOf c).append (ih _ _ _)
      · next hc =>
        have hsimple := isSimple_of_needsEscape hc
        split
        · apply (simple_escapedBreak _ _).append (.cons hsimple (ih _ _ _))
        · apply Simple.cons hsimple (ih _ _ _)

theorem simple_writeFolded (doubled : Bool) (indent column : Nat) (before : Option Char)
    {s : List Char} (hs : Simple s) :
  Simple (writeFolded doubled indent column before s)
  := by
  induction s generalizing column before with
  | nil => apply Simple.nil
  | cons c rest ih =>
      obtain ⟨hc, hrest⟩ := List.forall_mem_cons.mp hs
      unfold writeFolded
      split
      · apply Simple.append (.cons rfl (simple_margin indent)) (ih _ _ hrest)
      · split
        · apply Simple.append (.append ?_ ?_) (ih _ _ hrest)
          · split
            · apply Simple.cons rfl .nil
            · apply Simple.cons rfl (.cons rfl .nil)
          · split
            · apply Simple.nil
            · apply simple_margin
        · split
          · apply Simple.cons rfl (.cons rfl (ih _ _ hrest))
          · apply Simple.cons hc (ih _ _ hrest)

theorem simple_of_needsNoEscape {s : List Char} (h : needsNoEscape s = true) :
  Simple s
  := List.all_eq_true.mp (Bool.and_eq_true_iff.mp h).1

/-- A text is written without escapes only if it needs none. -/
theorem simple_writeText (indent column : Nat) (s : List Char) :
  Simple (writeText indent column s)
  := by
  unfold writeText Style.of
  split
  · next hplain =>
    have hs : Simple s := by
      apply simple_of_needsNoEscape
      simp only [canBePlain, Bool.and_eq_true] at hplain
      simp [hplain]
    apply simple_writeFolded _ _ _ _ hs
  · split
    · next hsingle =>
      have hs := simple_of_needsNoEscape hsingle
      apply Simple.cons rfl ((simple_writeFolded _ _ _ _ hs).append (.cons rfl .nil))
    · apply Simple.cons rfl ((simple_writeEscaped _ _ _ _ _).append (.cons rfl .nil))

/-! ### Values -/

theorem isSimple_of_isDigit {c : Char} (h : c.isDigit = true) :
  isSimple c = true
  := by
  obtain ⟨hlo, hhi⟩ : 48 ≤ c.val ∧ c.val ≤ 57 := by simpa [Char.isDigit] using h
  have hblank : ' ' ≤ c := UInt32.le_trans (by decide) hlo
  have htilde : c ≤ '~' := UInt32.le_trans hhi (by decide)
  simp [isSimple, hblank, htilde]

theorem simple_toString (n : Int) :
  Simple (toString n).toList
  := by
  intro c hc
  rcases Text.isDigit_of_mem_intText hc with rfl | hdigit
  · rfl
  · apply isSimple_of_isDigit hdigit

theorem simple_writeScalar (indent column : Nat) (v : Value) :
  Simple (writeScalar indent column v)
  := by
  cases v with
  | text s => apply simple_writeText
  | int n => apply simple_toString
  | bool b =>
      cases b with
      | true => apply Simple.of_all (s := "true".toList) rfl
      | false => apply Simple.of_all (s := "false".toList) rfl
  | _ => apply Simple.of_all (s := "null".toList) rfl

/-- What is written between a key or a hyphen and the structure after it. -/
theorem simple_opening (inList : Bool) (indent : Nat) :
  Simple (if inList then [' '] else '\n' :: margin indent)
  := by
  split
  · apply Simple.cons rfl .nil
  · apply Simple.cons rfl (simple_margin indent)

theorem simple_writeLine (indent column : Nat) (v : Value) :
  Simple (' ' :: writeScalar indent column v ++ ['\n'])
  := Simple.cons rfl ((simple_writeScalar indent column v).append (.cons rfl .nil))

mutual

theorem simple_writeValue (inList : Bool) (indent column : Nat) (v : Value) :
  Simple (writeValue inList indent column v)
  := by
  cases v with
  | list items =>
      cases items with
      | nil => exact .cons rfl (.cons rfl (.cons rfl (.cons rfl .nil)))
      | cons item items =>
          apply Simple.append (.append (simple_opening _ _) (.cons rfl ?_))
          · apply simple_writeItems _ items
          · apply simple_writeValue _ _ _ item
  | map entries =>
      cases entries with
      | nil => exact .cons rfl (.cons rfl (.cons rfl (.cons rfl .nil)))
      | cons e entries =>
          obtain ⟨k, v⟩ := e
          apply Simple.append
            (.append (.append (simple_opening _ _) (simple_writeScalar _ _ k)) (.cons rfl ?_))
          · apply simple_writeEntries _ entries
          · apply simple_writeValue _ _ _ v
  | _ => apply simple_writeLine

theorem simple_writeItems (indent : Nat) (items : List Value) :
  Simple (writeItems indent items)
  := by
  cases items with
  | nil => apply Simple.nil
  | cons item items =>
      apply Simple.append (.append (simple_margin indent) (.cons rfl ?_))
      · apply simple_writeItems indent items
      · apply simple_writeValue _ _ _ item

theorem simple_writeEntries (indent : Nat) (entries : List (Value × Value)) :
  Simple (writeEntries indent entries)
  := by
  cases entries with
  | nil => apply Simple.nil
  | cons e entries =>
      obtain ⟨k, v⟩ := e
      apply Simple.append
        (.append (.append (simple_margin indent) (simple_writeScalar _ _ k)) (.cons rfl ?_))
      · apply simple_writeEntries indent entries
      · apply simple_writeValue _ _ _ v

end

theorem simple_writeMapping (entries : List (Value × Value)) :
  Simple (writeMapping entries).toList
  := by
  unfold writeMapping
  split
  · exact .cons rfl (.cons rfl (.cons rfl .nil))
  · rw [String.toList_ofList]
    apply simple_writeEntries

/-! ### Line breaks -/

/-- What has no carriage returns is not changed where they are read as line breaks. -/
theorem universalNewlines_of_simple {s : List Char} (hs : Simple s) :
  universalNewlines s = s
  := by
  fun_induction universalNewlines s with
  | case1 => rfl
  | case2 rest ih => cases hs '\r' List.mem_cons_self
  | case3 rest hrest ih => cases hs '\r' List.mem_cons_self
  | case4 c rest hreturn hpair ih => rw [ih (List.forall_mem_cons.mp hs).2]

end CommitPolicy.Yaml
