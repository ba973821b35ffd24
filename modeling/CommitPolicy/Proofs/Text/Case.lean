import CommitPolicy.Text.Case
import Mathlib.Data.List.Forall2
import Mathlib.Tactic.Use

/-!
# Letters in any case

Without regard to case a small ASCII letter compares equal to itself and to its capital.  Four other
characters compare equal to one: the dotted capital and the dotless small i are forms of i, the
Kelvin sign is a form of k and the long s is a form of s.
-/

namespace CommitPolicy.Text

/-! ### Runs -/

/-- A code point that the runs move to `m` is one of the preimages that are listed. -/
theorem CaseRun.eq_or_mem_preimages {runs : List CaseRun} {n m : Nat} (hm : 0 < m)
    (h : CaseRun.map runs n = m) :
  n = m ∨ n ∈ CaseRun.preimages runs m
  := by
  induction runs with
  | nil => apply Or.inl h
  | cons r rest ih =>
      rw [CaseRun.map] at h
      split at h
      · apply Or.inl h
      · next hlo =>
        split at h
        · next hin =>
          apply Or.inr
          have hback : ((m : Int) - r.offset).toNat = n := by omega
          have hone : CaseRun.map [r] n = m := by rw [CaseRun.map, if_neg hlo, if_pos hin, h]
          have hhi : n ≤ r.hi := by
            simp only [Bool.and_eq_true, decide_eq_true_eq] at hin
            apply hin.1
          apply List.mem_filterMap.mpr
          use r, List.mem_cons_self
          simp only [hback, hone]
          simpa [hhi] using Nat.le_of_not_lt hlo
        · rcases ih h with heq | hmem
          · apply Or.inl heq
          · apply Or.inr
            obtain ⟨r', hr', hsome⟩ := List.mem_filterMap.mp hmem
            apply List.mem_filterMap.mpr
            use r', List.mem_cons_of_mem r hr', hsome

/-! ### Forms of a letter -/

/-- The forms of a small ASCII letter: the characters that it compares equal to without regard to
case. -/
def caseForms (w : Char) : List Char :=
  w :: w.toUpper ::
    (if w = 'i' then ['\u0130', '\u0131']
    else if w = 'k' then ['\u212A']
    else if w = 's' then ['\u017F']
    else [])

/-- The small ASCII letters. -/
def smallLetters : List Char := "abcdefghijklmnopqrstuvwxyz".toList

theorem sameLetter_iff {w c : Char} (hw : w ∈ smallLetters) :
  sameLetter w c = true ↔ c ∈ caseForms w
  := by
  -- Both checks run over the small letters, and the first one through the runs that lead to them.
  have hsources : (smallLetters.all fun w => (caseClass (lowerChar w).toNat).all fun m =>
      decide (0 < m) && (m :: CaseRun.preimages lowerRuns m).all fun n =>
        ((caseForms w).map Char.toNat).contains n) = true := by decide +kernel
  have hforms : (smallLetters.all fun w => (caseForms w).all fun c => sameLetter w c) = true := by
    decide +kernel
  constructor
  · intro h
    have hclass := List.all_eq_true.mp (List.all_eq_true.mp hsources w hw) _
      (List.contains_iff_mem.mp h)
    rw [Bool.and_eq_true, decide_eq_true_eq, List.all_eq_true] at hclass
    obtain ⟨hpos, hmem⟩ := hclass
    have hmoves : CaseRun.map lowerRuns c.toNat = (lowerChar c).toNat := by
      by_cases hvalid : (CaseRun.map lowerRuns c.toNat).isValidChar
      · rw [lowerChar, Char.ofNat, dif_pos hvalid]
        rfl
      · rw [lowerChar, Char.ofNat, dif_neg hvalid] at hpos
        cases hpos
    have hsource := hmem c.toNat (List.mem_cons.mpr (CaseRun.eq_or_mem_preimages hpos hmoves))
    obtain ⟨d, hd, heq⟩ := List.mem_map.mp (List.contains_iff_mem.mp hsource)
    rw [← Char.toNat_inj.mp heq]
    apply hd
  · apply List.all_eq_true.mp (List.all_eq_true.mp hforms w hw)

end CommitPolicy.Text
