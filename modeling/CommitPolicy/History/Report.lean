import CommitPolicy.History.Repository
import CommitPolicy.Validator.Basic

/-!
# Range reports

A report lists the commits of a revision range with the verdicts on their messages.  Every commit
counts as passed, skipped, failed or inconclusive.
-/

namespace CommitPolicy

/-- A commit and the verdict on its message. -/
structure CommitCheck where
  record : CommitRecord
  verdict : Verdict
  deriving DecidableEq, Repr

/-- The outcome of validating a revision range. -/
structure RangeReport where
  range : String
  checks : List CommitCheck
  deriving DecidableEq, Repr

namespace RangeReport

/-- The number of commits. -/
def total (r : RangeReport) : Nat := r.checks.length

/-- The number of commits whose messages are valid and were not skipped. -/
def passed (r : RangeReport) : Nat := r.checks.countP fun c => c.verdict.valid && !c.verdict.ignored

/-- The number of commits whose messages match an ignore pattern. -/
def skipped (r : RangeReport) : Nat := r.checks.countP fun c => c.verdict.ignored

/-- The number of commits whose messages break rules. -/
def failed (r : RangeReport) : Nat :=
  r.checks.countP fun c => !c.verdict.valid && !c.verdict.timedOut

/-- The number of commits whose validation ran out of time. -/
def inconclusive (r : RangeReport) : Nat := r.checks.countP fun c => c.verdict.timedOut

/-- Whether no commit failed and none is inconclusive. -/
def ok (r : RangeReport) : Bool := r.failed == 0 && r.inconclusive == 0

/-- The commits whose verdicts are not valid. -/
def failures (r : RangeReport) : List CommitCheck := r.checks.filter fun c => !c.verdict.valid

/-- The counts in one line. -/
def summary (r : RangeReport) : String :=
  "Checked " ++ toString r.total ++ " commit(s): " ++ toString r.passed ++ " passed, "
    ++ toString r.failed ++ " failed, " ++ toString r.inconclusive ++ " inconclusive, "
    ++ toString r.skipped ++ " skipped"

end RangeReport

/-- Validates the messages of commits one after the other, for a report on a range. -/
def Validator.checkRange {O : Type} (v : Validator O) (timing : Timing) (range : String)
    (records : List CommitRecord) :
    Except Failure RangeReport × List (Notice O) × Validator O :=
  let (verdicts, told, v) := v.validateAll timing (records.map (·.message))
  (verdicts.map fun verdicts => ⟨range, (records.zip verdicts).map fun (r, x) => ⟨r, x⟩⟩, told, v)

end CommitPolicy
