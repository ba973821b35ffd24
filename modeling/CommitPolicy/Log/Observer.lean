import CommitPolicy.Console.Print
import CommitPolicy.Log.Event

/-!
# Observers

Observers write down the events that they are told: on the console or in a log file.  The console
always shows that time ran out; the rest it shows only if it is asked to be verbose.
-/

namespace CommitPolicy

open Console

namespace Event

/-- The summary of a message written for the console. -/
def shownSummary (message : String) : String := escapeText (summarize message summaryWidth)

/-- What a console is to print of an event, as markup. -/
def markup (verbose : Bool) : Event → Option String
  | ignored message pattern =>
    if verbose then
      some ("[dim]Skipped '" ++ shownSummary message ++ "' (matched ignore pattern '"
        ++ escapeText pattern ++ "')[/dim]")
    else none
  | timedOut message _ =>
    some ("[yellow]Validation of '" ++ shownSummary message
      ++ "' timed out; result is inconclusive[/yellow]")
  | validated message v =>
    if !verbose || v.ignored then none
    else if v.valid then some ("[dim]valid: " ++ shownSummary message ++ "[/dim]")
    else
      some ("[dim]invalid (" ++ toString v.violations.length ++ " violation(s)): "
        ++ shownSummary message ++ "[/dim]")

end Event

/-- An observer that writes. -/
inductive Observer where
  | console (verbose : Bool)
  | logFile
  deriving DecidableEq, Repr

/-- What an observer writes of an event at a time.

A text is a sequence of Unicode scalar values, so it always has bytes that the log can hold.  A
message from elsewhere can have a surrogate in it, which has no bytes; such a message is no text
here.  Writing a line with a surrogate to the log fails, so the line is not appended, and the call
that the observer is told of fails with it. -/
def Observer.write (time : String) (e : Event) : Observer → Except Failure String
  | console verbose =>
    match e.markup verbose with
    | some m => printedWrapped consoleWidth m
    | none => .ok ""
  | logFile => .ok (e.logText time)

end CommitPolicy
