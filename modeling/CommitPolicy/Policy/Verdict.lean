import CommitPolicy.Text.Lines

/-!
# Verdicts

A violation is the name of a rule and why the message breaks it.  A verdict is the outcome of
validating a message; it is valid exactly when it has no violations.
-/

namespace CommitPolicy

/-- A rule that a message breaks, and why. -/
structure Violation where
  rule : String
  message : String
  deriving DecidableEq, Repr

/-- The violation as one line. -/
def Violation.text (v : Violation) : String := v.rule ++ ": " ++ v.message

/-- The outcome of validating a message.  A verdict that timed out is inconclusive: not every rule
was evaluated. -/
structure Verdict where
  violations : List Violation
  ignored : Bool
  timedOut : Bool
  deriving DecidableEq, Repr

namespace Verdict

/-- A verdict is valid when it has no violations. -/
def valid (v : Verdict) : Bool := v.violations.isEmpty

/-- The verdict on a message that breaks no rule. -/
def passed : Verdict := ⟨[], false, false⟩

/-- The verdict on a message that matches an ignore pattern. -/
def skipped : Verdict := ⟨[], true, false⟩

/-- The verdict on a message that breaks rules. -/
def failed (violations : List Violation) : Verdict := ⟨violations, false, false⟩

/-- The verdict on a message whose validation ran out of time. -/
def inconclusive (violations : List Violation) : Verdict := ⟨violations, false, true⟩

/-- Why a verdict cannot be made. -/
inductive Inconsistency where
  | validWithViolations
  | invalidWithoutViolations
  deriving DecidableEq, Repr

/-- The wording of an inconsistency. -/
def Inconsistency.text : Inconsistency → String
  | validWithViolations => "a valid result cannot carry violations"
  | invalidWithoutViolations => "an invalid result needs at least one violation"

/-- The verdict with these parts, if the first agrees with the violations. -/
def make? (isValid : Bool) (violations : List Violation) (ignored timedOut : Bool) :
    Except Inconsistency Verdict :=
  if isValid && !violations.isEmpty then .error .validWithViolations
  else if !isValid && violations.isEmpty then .error .invalidWithoutViolations
  else .ok ⟨violations, ignored, timedOut⟩

/-- The names of the rules that are broken. -/
def ruleNames (v : Verdict) : List String := v.violations.map (·.rule)

/-- The verdict in plain text. -/
def report (v : Verdict) : String :=
  if v.valid then
    if v.ignored then "Commit message skipped (matched an ignore pattern)"
    else "Commit message is valid"
  else
    let head :=
      if v.timedOut then "Commit message validation was inconclusive:"
      else "Commit message validation failed:"
    Text.joinWith "\n" (head :: v.violations.map fun x => "  - " ++ x.text)

end Verdict

end CommitPolicy
