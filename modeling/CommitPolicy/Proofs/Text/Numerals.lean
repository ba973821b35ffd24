import CommitPolicy.Text.Whole
import Mathlib.Data.Nat.Digits.Lemmas

/-!
# Characters of numerals

A number is written with digits, and with a minus sign if it is negative.
-/

namespace CommitPolicy.Text

variable {c : Char}

theorem isDigit_of_mem_natText {n : Nat} (h : c ∈ (toString n).toList) :
  c.isDigit = true
  := by
  change c ∈ n.repr.toList at h
  rw [Nat.toList_repr] at h
  apply Nat.isDigit_of_mem_toDigits (by decide) (by decide) h

theorem isDigit_of_mem_intText {n : Int} (h : c ∈ (toString n).toList) :
  c = '-' ∨ c.isDigit = true
  := by
  cases n with
  | ofNat n => exact .inr (isDigit_of_mem_natText h)
  | negSucc n =>
      change c ∈ ("-" ++ (n + 1).repr).toList at h
      rw [String.toList_append, List.mem_append] at h
      apply h.imp List.mem_singleton.mp isDigit_of_mem_natText

end CommitPolicy.Text
