import CommitPolicy.Failure
import CommitPolicy.Text.Whole

/-!
# Deadlines

A deadline is the time that a validation may take, given as a number of seconds or as a span in
whole microseconds.
-/

namespace CommitPolicy

open Text

/-- The time that a validation may take. -/
inductive Deadline where
  | seconds (x : Float)
  | wholeSeconds (n : Int)
  | span (microseconds : Int)

namespace Deadline

/-- The number of days that a span can have. -/
def maxDays : Nat := 999999999

/-- The span of so many microseconds, if it has neither too many days nor too few. -/
def ofMicroseconds (n : Int) : Except Failure Deadline :=
  let days := Int.fdiv n (24 * 60 * 60 * 1000000)
  if days.natAbs ≤ maxDays then .ok (.span n) else .error .overflow

/-- The whole number nearest to a value; a half goes to the even neighbour. -/
def roundWhole (x : Float) : Int :=
  let (negative, m, e) := floatParts x
  if negative then -(roundScaled m e : Int) else roundScaled m e

/-- The whole part of a value. -/
def wholePart (x : Float) : Int := roundWhole (if x < 0 then x.ceil else x.floor)

/-- The span of so many milliseconds.  The fraction of a millisecond is rounded to whole
microseconds. -/
def ofMilliseconds (x : Float) : Except Failure Deadline :=
  let whole := if x < 0 then x.ceil else x.floor
  ofMicroseconds (1000 * wholePart x + roundWhole (1000 * (x - whole)))

/-- The floating-point value nearest to a number of seconds, if it is not too large for one. -/
def toSeconds : Deadline → Except Failure Float
  | seconds x => .ok x
  | wholeSeconds n =>
    let x := Float.ofInt n
    if x.isInf then .error .overflow else .ok x
  | span n =>
    let x := Float.ofScientific n.natAbs true 6
    .ok (if n < 0 then -x else x)

end Deadline

end CommitPolicy
