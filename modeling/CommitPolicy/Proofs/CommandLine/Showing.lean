import CommitPolicy.Proofs.CommandLine.ExitCode
import CommitPolicy.Proofs.Console.Markup
import CommitPolicy.Proofs.Text.Numerals

/-!
# Showing reports in short

In short, only the commits whose messages are not valid are shown in a table.  So if all are valid
nothing but the counts is printed, which cannot fail, and the console is told of nothing that it
prints.  A table could not be printed if its title is no markup, or if the summary of a commit is
not known to be well formed.
-/

namespace CommitPolicy.Console

/-- Text without backslashes and opening brackets can be printed. -/
theorem exists_printed_plain {s : String}
    (h : (s.toList.all fun c => c != '\\' && c != '[') = true) :
  ∃ text, printed s = .ok text
  := by
  have hpieces : pieces s.toList = s.toList.map .char := by
    have happend := piecesAfter_append h []
    rw [List.append_nil] at happend
    rw [pieces, happend, piecesAfter]
    simp [backslashes]
  have hplain : ∀ p ∈ s.toList.map Piece.char, p.IsPlain := by
    intro p hp
    obtain ⟨c, -, rfl⟩ := List.mem_map.mp hp
    trivial
  have hend : renderStretches [] [] = .ok [] := rfl
  have hrender := renderStretches_append (isText_stretches hplain []) hend
  rw [List.append_nil, ← hpieces] at hrender
  rw [printed, shown, render, hrender]
  exact ⟨_, rfl⟩

end CommitPolicy.Console

namespace CommitPolicy.CommandLine

open Console

namespace Job

variable {α β : Type}

/-- The job comes to a value, whatever was done before. -/
def Succeeds (job : Job α) : Prop := ∀ e, ∃ a e', job.result e = (.ok a, e')

theorem Succeeds.pure (a : α) :
  Succeeds (Pure.pure a : Job α)
  := fun e => ⟨a, e, rfl⟩

theorem Succeeds.modify (f : Effects → Effects) :
  (modify f : Job Unit).Succeeds
  := fun e => ⟨(), f e, rfl⟩

theorem Succeeds.bind {job : Job α} {f : α → Job β} (hjob : job.Succeeds)
    (hf : ∀ a, (f a).Succeeds) :
  (job >>= f).Succeeds
  := by
  intro e
  obtain ⟨a, between, hresult⟩ := hjob e
  obtain ⟨b, e', hnext⟩ := hf a between
  use b, e'
  rw [result_bind, hresult]
  apply hnext

theorem Succeeds.forM {job : α → Job Unit} {l : List α} (hjob : ∀ a ∈ l, (job a).Succeeds) :
  (l.forM job).Succeeds
  := by
  induction l with
  | nil => apply Succeeds.pure
  | cons a rest ih =>
      apply Succeeds.bind (hjob a List.mem_cons_self)
      intro _
      apply ih fun b hb => hjob b (List.mem_cons_of_mem a hb)

theorem Succeeds.orRangeFault {job : Job α} (hjob : job.Succeeds) :
  (orRangeFault job).Succeeds
  := by
  intro e
  obtain ⟨a, e', hresult⟩ := hjob e
  exact ⟨a, e', result_orRangeFault_eq_ok_iff.mpr hresult⟩

theorem Succeeds.print {markup text : String} (h : printed markup = .ok text) :
  (Job.print markup).Succeeds
  := by
  rw [Job.print, h]
  apply Succeeds.bind (.pure _) fun _ => .modify _

end Job

open Job

/-- A console that is not verbose prints of an event only that time ran out. -/
theorem succeeds_deliver_console {clock : Clock} {log : Path} {e : Event}
    (h : ∀ message verdict, e ≠ .timedOut message verdict) :
  (deliver clock log (.console false, e)).Succeeds
  := by
  have hmarkup : e.markup false = none := by
    cases e with
    | ignored message pattern => rfl
    | timedOut message verdict => cases h message verdict rfl
    | validated message verdict => rfl
  have hwrite : (Observer.console false).write clock.line e = .ok "" := by
    rw [Observer.write, hmarkup]
  rw [deliver, hwrite]
  apply Succeeds.bind (.pure _) fun _ => .modify _

/-- The counts of a report can be printed. -/
theorem exists_printed_summary (r : RangeReport) :
  ∃ text, printed r.summary = .ok text
  := by
  have hcount : ∀ n : Nat, ((toString n).toList.all fun c => c != '\\' && c != '[') = true := by
    intro n
    rw [List.all_eq_true]
    intro c hc
    have hdigit := Text.isDigit_of_mem_natText hc
    rw [Bool.and_eq_true, bne_iff_ne, bne_iff_ne]
    constructor
    · rintro rfl
      cases hdigit
    · rintro rfl
      cases hdigit
  have hplain : (r.summary.toList.all fun c => c != '\\' && c != '[') = true := by
    delta RangeReport.summary
    simp only [String.toList_append, List.all_append, hcount, Bool.and_true]
    decide
  exact exists_printed_plain hplain

/-- A report with valid messages only is printed in short. -/
theorem succeeds_printReport {r : RangeReport} (h : ∀ c ∈ r.checks, c.verdict.valid = true) :
  (printReport false r).Succeeds
  := by
  have hshown : (r.checks.filter fun c => false || !c.verdict.valid) = [] := by
    rw [List.filter_eq_nil_iff]
    intro c hc
    simp [h c hc]
  obtain ⟨text, htext⟩ := exists_printed_summary r
  rw [printReport, hshown]
  exact Succeeds.print htext

/-- Showing a report in short does not fail if the observers are consoles and time did not run
out. -/
theorem succeeds_showReport {s : Setup} {c : Config} {report : RangeReport}
    {told : List (Notice Observer)} (hvalid : ∀ c ∈ report.checks, c.verdict.valid = true)
    (htold : ∀ notice ∈ told, notice.1 = .console false
      ∧ ∀ message verdict, notice.2 ≠ .timedOut message verdict) :
  (showReport s false c report told).Succeeds
  := by
  apply Succeeds.bind (Succeeds.orRangeFault (.forM _))
  · intro _
    apply succeeds_printReport hvalid
  · rintro ⟨o, e⟩ hnotice
    obtain ⟨rfl, hevent⟩ := htold _ hnotice
    apply succeeds_deliver_console hevent

end CommitPolicy.CommandLine
