import CommitPolicy.Log.Summary
import CommitPolicy.Policy.Evaluate

/-!
# Events

A validation is told as events: that the message was skipped because of a pattern, that time ran
out, and always, at the end, the verdict.  A log file holds an event as records, one line each,
after the time.
-/

namespace CommitPolicy

/-- What an observer of a validation is told. -/
inductive Event where
  | ignored (message pattern : String)
  | timedOut (message : String) (verdict : Verdict)
  | validated (message : String) (verdict : Verdict)
  deriving DecidableEq, Repr

/-- The events of a validation of `message` with the given verdict. -/
def RuleSet.events (rs : RuleSet) (message : String) (v : Verdict) : List Event :=
  ((if v.ignored then rs.ignoredBy message else none).toList.map
      fun p => Event.ignored message p.source)
    ++ (if v.timedOut then [.timedOut message v] else [])
    ++ [.validated message v]

namespace Event

/-- The records of an event in a log file. -/
def records : Event → List String
  | ignored message pattern =>
    ["SKIPPED " ++ summarize message summaryWidth ++ " (ignore pattern '" ++ pattern ++ "')"]
  | timedOut message _ => ["TIMEOUT " ++ summarize message summaryWidth]
  | validated message v =>
    if v.ignored then []
    else
      ((if v.valid then "VALID " else "INVALID ") ++ summarize message summaryWidth)
        :: v.violations.map fun x => "  " ++ x.text

/-- A record as a line of a log file. -/
def logLine (time record : String) : String := time ++ " - " ++ record ++ "\n"

/-- The text that an event appends to a log file. -/
def logText (time : String) (e : Event) : String := String.join (e.records.map (logLine time))

end Event

end CommitPolicy
