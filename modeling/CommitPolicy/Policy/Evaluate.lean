import CommitPolicy.Policy.RuleSet
import CommitPolicy.Text.Whole

/-!
# Evaluating a policy

`RuleSet.validate` gives the verdict on a message.  The rules are evaluated one after the other,
with a reading of the clock before each, or all at once, and then some of them may be done when the
time is up.  The violations found are sorted by the keys of their rules, so their order does not
depend on which rule was done first.

There is no verdict if the rules would have to be waited for longer than is possible:
`RuleSet.attempt` fails then.
-/

namespace CommitPolicy

/-- How the rules were run. -/
inductive Course where
  /-- One after the other; `clock i` is the reading before rule number `i`. -/
  | inTurn (clock : Nat → Float)
  /-- All at once; the reading of the clock when waiting began, if some rule was not done yet, and
  the numbers of the rules that were done when it ended, in any order. -/
  | atOnce (waits : Option Float) (done : List Nat)

/-- Whether the time at which a deadline expires has come. -/
def expired (expires : Option Float) (now : Float) : Bool :=
  match expires with
  | none => false
  | some t => t ≤ now

/-- The longest time that can be waited for, in seconds. -/
def longestWait : Float := 9223372036.854775

/-- Whether waiting from `now` until a deadline expires is refused. -/
def refusesWait (expires : Option Float) (now : Float) : Bool :=
  match expires with
  | none => false
  | some t => longestWait < t - now

namespace Course

/-- Whether waiting for the rules is refused. -/
def refused (expires : Option Float) : Course → Bool
  | inTurn _ => false
  | atOnce waits _ => waits.any (refusesWait expires)

/-- The numbers of the rules that were completed, out of `total` rules. -/
def completed (expires : Option Float) (total : Nat) : Course → List Nat
  | inTurn clock => (List.range total).takeWhile fun i => !expired expires (clock i)
  | atOnce _ done => done

end Course

/-- The order of the keys of rules. -/
def keyLe (a b : Nat × Nat) : Bool := a.1 < b.1 || (a.1 == b.1 && a.2 ≤ b.2)

/-- The violation that says that time ran out, `seconds` being the time allowed. -/
def timeoutViolation (seconds : Option Float) (completed total : Nat) : Violation :=
  let budget := (match seconds with | some s => if s == 0 then 0 else s | none => 0) * 1000
  ⟨RuleKind.timeout.name,
    "validation exceeded its " ++ Text.wholeText budget ++ " ms deadline after "
      ++ toString completed ++ " of " ++ toString total
      ++ " rules; the result is inconclusive, re-run with a longer deadline"⟩

namespace RuleSet

/-- The violations of the rules with the given numbers, each with the key of its rule. -/
def collect (rs : RuleSet) (c : Commit) (message : String) (done : List Nat) :
    List ((Nat × Nat) × Violation) :=
  done.filterMap fun i =>
    rs.orderedRules[i]?.bind fun (key, rule) => (rule.check c message).map fun v => (key, v)

/-- The violations in reporting order. -/
def sortedViolations (found : List ((Nat × Nat) × Violation)) : List Violation :=
  (found.mergeSort fun a b => keyLe a.1 b.1).map (·.2)

/-- The verdict on a commit of which the rules with the given numbers were completed. -/
def judge (rs : RuleSet) (c : Commit) (message : String) (seconds : Option Float)
    (done : List Nat) : Verdict :=
  let violations := sortedViolations (rs.collect c message done)
  if done.length < rs.rules.length then
    .inconclusive (violations ++ [timeoutViolation seconds done.length rs.rules.length])
  else if violations.isEmpty then .passed
  else .failed violations

/-- The verdict on a message within `seconds` from `start`, unless waiting for the rules fails. -/
def validate (rs : RuleSet) (message : String) (seconds : Option Float) (start : Float)
    (course : Course) : Verdict :=
  if (rs.ignoredBy message).isSome then .skipped
  else
    match Commit.parse message with
    | .error e => .failed [⟨RuleKind.format.name, e.message⟩]
    | .ok c =>
      rs.judge c message seconds (course.completed (seconds.map (start + ·)) rs.rules.length)

/-- Whether waiting for the rules is refused; they are not evaluated for a message that an ignore
pattern matches or that cannot be read. -/
def refuses (rs : RuleSet) (message : String) (seconds : Option Float) (start : Float)
    (course : Course) : Bool :=
  (rs.ignoredBy message).isNone && (Commit.parse message).toBool
    && course.refused (seconds.map (start + ·))

/-- Validates a message within `seconds` from `start`. -/
def attempt (rs : RuleSet) (message : String) (seconds : Option Float) (start : Float)
    (course : Course) : Except Failure Verdict :=
  if rs.refuses message seconds start course then .error .overflow
  else .ok (rs.validate message seconds start course)

/-- A course in which no time passes and every rule is done, unless the deadline has come at the
start: the rules in turn with one worker, all at once with more, and then waiting begins at once. -/
def instantly (rs : RuleSet) (workers : Int) (seconds : Option Float) : Course :=
  if workers ≤ 1 then .inTurn fun _ => 0
  else .atOnce (some 0) (if expired seconds 0 then [] else List.range rs.rules.length)

end RuleSet

end CommitPolicy
