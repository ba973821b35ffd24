import CommitPolicy.Config.Load
import CommitPolicy.Console.Print
import CommitPolicy.History.Repository
import CommitPolicy.Log.Time

/-!
# Jobs

A job is what a command does: it reads what it was set up with, changes files, and writes to the
console, until it is done or stops.
-/

namespace CommitPolicy.CommandLine

open Console

/-- The time as it is written in the name of a log file and in its lines. -/
structure Clock where
  fileName : String
  line : String

/-- A time, written both ways. -/
def Clock.ofTime (t : LocalTime) : Clock := ⟨t.fileName, t.line⟩

/-- What a run of the program is set up with. -/
structure Setup where
  surroundings : Surroundings
  /-- The text of the standard input. -/
  input : String
  /-- What the repository answers. -/
  repository : Repository
  clock : Clock
  /-- The version that is installed, if it is known. -/
  installed : Option String
  /-- The directory of the installation. -/
  location : Path

/-- What a run has done. -/
structure Effects where
  files : FileTree
  output : String
  errors : String
  clipboard : List String

/-- Why a job stops before its end. -/
inductive Stop where
  | exit (code : Nat)
  | failed (f : Failure)

/-- Something that is done with effects, and that can stop. -/
abbrev Job := ExceptT Stop (StateM Effects)

namespace Job

/-- Fails. -/
def fail {α : Type} (f : Failure) : Job α := throw (.failed f)

/-- Ends the run. -/
def exit {α : Type} (code : Nat) : Job α := throw (.exit code)

/-- The value of a computation that can fail. -/
def ofExcept {α : Type} : Except Failure α → Job α
  | .ok a => pure a
  | .error f => fail f

/-- Writes a text to the output. -/
def write (s : String) : Job Unit := modify fun e => { e with output := e.output ++ s }

/-- Writes a text to the errors. -/
def writeError (s : String) : Job Unit := modify fun e => { e with errors := e.errors ++ s }

/-- Prints markup. -/
def print (markup : String) : Job Unit := do write (← ofExcept (printed markup))

/-- Prints markup among the errors. -/
def printError (markup : String) : Job Unit := do writeError (← ofExcept (printed markup))

/-- The files as they are now. -/
def files : Job FileTree := do pure (← get).files

/-- Changes the files. -/
def changeFiles (change : FileTree → Except Failure FileTree) : Job Unit := do
  let files ← ofExcept (change (← files))
  modify fun e => { e with files := files }

/-- Puts a text on the clipboard. -/
def copy (s : String) : Job Unit := modify fun e => { e with clipboard := e.clipboard ++ [s] }

/-- Prints what is wrong with the configuration, and ends the run. -/
def configFault {α : Type} (e : ConfigError) : Job α := do
  printError ("[red]Configuration error: " ++ escapeText e.message ++ "[/red]")
  exit 2

/-- The value of a computation that can find something wrong with the configuration. -/
def orConfigFault {α : Type} : Except Failure α → Job α
  | .ok a => pure a
  | .error (.config e) => configFault e
  | .error f => fail f

end Job

end CommitPolicy.CommandLine
