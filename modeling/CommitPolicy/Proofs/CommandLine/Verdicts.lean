import CommitPolicy.Proofs.CommandLine.ExitCode
import CommitPolicy.Proofs.Console.Shown

/-!
# Printing verdicts

A verdict is printed in a colour, with its report escaped.  The report quotes the message and the
texts of the configuration; whatever they are, printing does not fail and does nothing but write to
the output.  What it writes is the report and a line feed exactly if the report is literal.
-/

namespace CommitPolicy.CommandLine

open Console

theorem isStyle_colourOf (v : Verdict) :
  IsStyle (colourOf v).toList
  := by
  have hgreen : IsStyle "green".toList := ⟨by decide, by decide⟩
  have hyellow : IsStyle "yellow".toList := ⟨by decide, by decide⟩
  have hred : IsStyle "red".toList := ⟨by decide, by decide⟩
  unfold colourOf
  split
  · exact hgreen
  · split
    · exact hyellow
    · exact hred

theorem verdictMarkup_eq (v : Verdict) :
  verdictMarkup v
    = String.ofList ('[' :: ((colourOf v).toList ++ [']'])) ++ escapeText v.report
      ++ String.ofList ('[' :: '/' :: ((colourOf v).toList ++ [']']))
  := by
  apply String.toList_inj.mp
  simp [verdictMarkup]

/-- What is printed of a text is written to the output, and nothing else is done. -/
theorem result_print {markup text : String} (h : printed markup = .ok text) (e : Effects) :
  (Job.print markup).result e = (.ok (), { e with output := e.output ++ text })
  := by
  rw [Job.print, h]
  rfl

/-- A verdict whose report has no control characters but line feeds is printed, whatever else the
report holds.  What is printed is the report and a line feed exactly if the report is literal. -/
theorem print_verdict_literal_iff (v : Verdict) (h : hasNoControls v.report.toList = true) :
  ∃ text,
    (∀ e, (Job.print (verdictMarkup v)).result e
      = (.ok (), { e with output := e.output ++ text }))
    ∧ (text = v.report ++ "\n" ↔ IsLiteral v.report.toList)
  := by
  obtain ⟨text, hprinted, hliteral⟩ := exists_printed_literal_iff (isStyle_colourOf v) h
  rw [← verdictMarkup_eq] at hprinted
  exact ⟨text, result_print hprinted, hliteral⟩

/-- The message holds tags, a backslash before a tag and colons, and the text of a rule of the
configuration ends in a backslash. -/
def quoting : Verdict :=
  .failed [⟨"format", "got '[red]fix\\[/red]: x [a:b' (line 1)"⟩, ⟨"path", "no C:\\"⟩]

/-- The message holds the code of an emoji. -/
def beetle : Verdict := .failed [⟨"format", "got 'fix :bug: x' (line 1)"⟩]

theorem print_verdict_literal_iff_quoting :
  (∃ text,
    (∀ e, (Job.print (verdictMarkup quoting)).result e
      = (.ok (), { e with output := e.output ++ text }))
    ∧ text = "Commit message validation failed:\n"
      ++ "  - format: got '[red]fix\\[/red]: x [a:b' (line 1)\n"
      ++ "  - path: no C:\\\n")
    ∧ ∃ text,
      (∀ e, (Job.print (verdictMarkup beetle)).result e
        = (.ok (), { e with output := e.output ++ text }))
      ∧ text ≠ beetle.report ++ "\n"
  := by
  obtain ⟨text, hprint, hliteral⟩ := print_verdict_literal_iff quoting (by decide +kernel)
  obtain ⟨changed, hprint', hliteral'⟩ := print_verdict_literal_iff beetle (by decide +kernel)
  constructor
  · use text, hprint
    rw [hliteral.mpr (by decide +kernel)]
    decide +kernel
  · use changed, hprint'
    apply mt hliteral'.mp
    decide +kernel

end CommitPolicy.CommandLine
