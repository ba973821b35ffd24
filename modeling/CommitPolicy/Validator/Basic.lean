import CommitPolicy.Log.Event
import CommitPolicy.Memo.Basic
import CommitPolicy.Message.Comments
import CommitPolicy.Text.Utf8
import CommitPolicy.Validator.Deadline

/-!
# Validators

A validator holds a policy, a memo of verdicts if it has one, and the observers that are told of
every validation.  A verdict that ran out of time is never stored, so a stored verdict is the one
that a validation without a deadline gives.

A validation fails if its deadline is no number of seconds, or too far away to wait for.  Nobody is
told of it then.
-/

namespace CommitPolicy

/-- A policy with what a series of validations shares; `O` are the observers. -/
structure Validator (O : Type) where
  rules : RuleSet
  /-- The number of rules that are evaluated at the same time. -/
  workers : Int
  memo : Option (Memo Verdict)
  /-- The deadline of a validation that is given none. -/
  deadline : Option Deadline
  /-- The observers in the order in which they are told. -/
  observers : List O

/-- When a validation starts, and how its rules run for a time allowed. -/
structure Timing where
  start : Float
  /-- The reading of the clock when the memo is asked. -/
  asks : Float
  /-- The reading of the clock when waiting for another caller begins. -/
  waits : Float
  course : Option Float → Course

/-- A timing in which no time passes. -/
def RuleSet.standstill (rs : RuleSet) (workers : Int) : Timing := ⟨0, 0, 0, rs.instantly workers⟩

/-- An event, and the observer that it is told to. -/
abbrev Notice (O : Type) := O × Event

namespace Validator

variable {O : Type}

/-- A validator without observers; at least one rule has to be evaluated at a time. -/
def make? (rules : RuleSet) (workers : Int) (memo : Option (Memo Verdict))
    (deadline : Option Deadline) : Except Failure (Validator O) :=
  if workers < 1 then .error (.argument "max_workers must be at least 1")
  else .ok ⟨rules, workers, memo, deadline, []⟩

/-- The validator with one more observer, which is told last. -/
def attach (v : Validator O) (o : O) : Validator O := { v with observers := v.observers ++ [o] }

/-- The validator without an observer, which has to be one of its observers. -/
def detach [BEq O] (v : Validator O) (o : O) : Except Failure (Validator O) :=
  if v.observers.contains o then .ok { v with observers := v.observers.erase o }
  else .error (.argument "list.remove(x): x not in list")

/-- The validator after its workers were dismissed: rules are evaluated one after the other. -/
def close (v : Validator O) : Validator O := { v with workers := 1 }

/-- The verdict of a caller that gave up waiting for the verdict of another one. -/
def gaveUp (rs : RuleSet) (seconds : Option Float) : Verdict :=
  .inconclusive [timeoutViolation seconds 0 rs.rules.length]

/-- The memo after a validation that led: a verdict is stored unless time ran out. -/
def conclude (memo : Memo Verdict) (message : String) : Except Failure Verdict → Memo Verdict
  | .ok verdict => if verdict.timedOut then memo.release message else memo.settle message verdict
  | .error _ => memo.release message

/-- The verdict on a message or why there is none, and the memo after it.

A validation that has to wait for another caller gives up when its time is over.  Without a
deadline it would wait on for as long as the other caller takes; that it gives up then, too, is one
answer more than there are. -/
def answer (rs : RuleSet) (message : String) (seconds : Option Float) (timing : Timing) :
    Option (Memo Verdict) → Except Failure Verdict × Option (Memo Verdict)
  | none => (rs.attempt message seconds timing.start (timing.course seconds), none)
  | some memo =>
    match memo.enter message with
    | (.hit verdict, memo) => (.ok verdict, some memo)
    | (.wait, memo) =>
      if refusesWait (seconds.map (timing.asks + ·)) timing.waits then (.error .overflow, some memo)
      else (.ok (gaveUp rs seconds), some memo)
    | (.lead, memo) =>
      let result := rs.attempt message seconds timing.start (timing.course seconds)
      (result, some (conclude memo message result))

/-- What the observers are told of a validation. -/
def notices (v : Validator O) (message : String) (verdict : Verdict) : List (Notice O) :=
  v.observers.flatMap fun o => (v.rules.events message verdict).map fun e => (o, e)

/-- The number of seconds that a validation may take which is given a deadline of its own or
none. -/
def allowance (v : Validator O) (deadline : Option Deadline) : Except Failure (Option Float) :=
  match deadline.or v.deadline with
  | some d => d.toSeconds.map some
  | none => .ok none

/-- Validates a message within so many seconds: the verdict or why there is none, what the observers
are told, and the validator afterwards. -/
def validateWithin (v : Validator O) (message : String) (seconds : Option Float)
    (timing : Timing) : Except Failure Verdict × List (Notice O) × Validator O :=
  let (result, memo) := answer v.rules message seconds timing v.memo
  (result, result.toOption.toList.flatMap (v.notices message), { v with memo := memo })

/-- Validates a message. -/
def validate (v : Validator O) (message : String) (deadline : Option Deadline)
    (timing : Timing) : Except Failure Verdict × List (Notice O) × Validator O :=
  match v.allowance deadline with
  | .ok seconds => v.validateWithin message seconds timing
  | .error e => (.error e, [], v)

/-- The message in the bytes of a message file. -/
def messageOf (bytes : List UInt8) : String :=
  stripComments commentMark
    (String.ofList (Text.universalNewlines (Text.decodeLossy bytes).toList))

/-- Validates the message in a file, given its bytes if there is such a file. -/
def validateFile (v : Validator O) (bytes : Option (List UInt8)) (deadline : Option Deadline)
    (timing : Timing) : Except Failure Verdict × List (Notice O) × Validator O :=
  match bytes with
  | some bytes => v.validate (messageOf bytes) deadline timing
  | none => (.error .fileNotFound, [], v)

/-- Validates messages one after the other, until there is no verdict on one of them. -/
def validateAll (v : Validator O) (timing : Timing) :
    List String → Except Failure (List Verdict) × List (Notice O) × Validator O
  | [] => (.ok [], [], v)
  | message :: rest =>
    match v.validate message none timing with
    | (.error e, told, v) => (.error e, told, v)
    | (.ok verdict, told, v) =>
      let (verdicts, toldRest, v) := v.validateAll timing rest
      (verdicts.map (verdict :: ·), told ++ toldRest, v)

end Validator

end CommitPolicy
