import CommitPolicy.Log.Time
import CommitPolicy.Proofs.Text.Numerals

/-!
# Characters of times

A time is written with digits and with the marks between them.
-/

namespace CommitPolicy

open Text

theorem isDigit_of_mem_twoDigits {c : Char} {n : Nat} (h : c ∈ (twoDigits n).toList) :
  c.isDigit = true
  := by
  unfold twoDigits at h
  split at h
  · rw [String.toList_append, List.mem_append] at h
    rcases h with h | h
    · rw [List.mem_singleton.mp h]
      rfl
    · apply isDigit_of_mem_natText h
  · apply isDigit_of_mem_natText h

namespace LocalTime

variable {t : LocalTime} {c : Char}

theorem cases_of_mem_date (h : c ∈ t.date.toList) :
  c = '-' ∨ c.isDigit = true
  := by
  simp only [date, String.toList_append, List.mem_append] at h
  rcases h with (((h | h) | h) | h) | h
  · exact .inr (isDigit_of_mem_natText h)
  · exact .inl (List.mem_singleton.mp h)
  · exact .inr (isDigit_of_mem_twoDigits h)
  · exact .inl (List.mem_singleton.mp h)
  · exact .inr (isDigit_of_mem_twoDigits h)

theorem cases_of_mem_clock {sep : String} (h : c ∈ (t.clock sep).toList) :
  c ∈ sep.toList ∨ c.isDigit = true
  := by
  simp only [clock, List.map_cons, List.map_nil, joinWith, String.toList_append, List.mem_append]
    at h
  rcases h with (h | h) | (h | h) | h
  · exact .inr (isDigit_of_mem_twoDigits h)
  · exact .inl h
  · exact .inr (isDigit_of_mem_twoDigits h)
  · exact .inl h
  · exact .inr (isDigit_of_mem_twoDigits h)

/-- A character that is no digit stands in a time only if it is one of the marks. -/
theorem not_mem_append {mark sep : String} (hdigit : c.isDigit = false)
    (hmarks : c ∉ '-' :: (mark.toList ++ sep.toList)) :
  c ∉ (t.date ++ mark ++ t.clock sep).toList
  := by
  rw [List.mem_cons, List.mem_append, not_or, not_or] at hmarks
  obtain ⟨hhyphen, hmark, hsep⟩ := hmarks
  have hnot : ¬c.isDigit = true := by
    rw [hdigit]
    nofun
  simp only [String.toList_append, List.mem_append]
  rintro ((h | h) | h)
  · apply (cases_of_mem_date h).elim hhyphen hnot
  · exact hmark h
  · apply (cases_of_mem_clock h).elim hsep hnot

end LocalTime

end CommitPolicy
