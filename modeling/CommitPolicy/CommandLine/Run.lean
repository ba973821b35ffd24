import CommitPolicy.CommandLine.Invocation
import CommitPolicy.CommandLine.Job
import CommitPolicy.Config.Display
import CommitPolicy.Config.Save
import CommitPolicy.History.Report
import CommitPolicy.Log.Observer
import CommitPolicy.Release
import CommitPolicy.Text.Decimal

/-!
# Running commands

`run` does what the arguments ask for.  The exit code is zero if all messages are valid, one if a
message is not or a command fails, and two if the arguments or the configuration are wrong.
-/

namespace CommitPolicy.CommandLine

open Console

variable [ReadingLimits]

/-! ### Validators and their observers -/

/-- What an observer does when it is told of an event; the log file is where `log` leads. -/
def deliver (clock : Clock) (log : Path) : Notice Observer → Job Unit
  | (.console verbose, e) => do
    Job.writeError (← Job.ofExcept ((Observer.console verbose).write clock.line e))
  | (.logFile, e) => do
    let text ← Job.ofExcept (Observer.logFile.write clock.line e)
    if text.isEmpty then pure ()
    else Job.changeFiles fun files => files.append log (Text.encode text)

/-- The log file of a configuration; a path without components stands for none. -/
def logOf (s : Setup) (c : Config) : Path := (c.logPath s.clock.fileName).getD ⟨"", []⟩

/-- The validator of a configuration with its observers: the console, and the log file if there is
one. -/
def buildValidator (s : Setup) (verbose : Bool) (c : Config) : Job (Validator Observer) := do
  let rules ← Job.orConfigFault (RuleSet.ofConfig c)
  let v ← Job.ofExcept (Validator.make? rules 1 none none)
  let v := v.attach (.console verbose)
  match c.logPath s.clock.fileName with
  | none => pure v
  | some log =>
    Job.changeFiles fun files => files.makeParents log
    pure (v.attach .logFile)

/-! ### Commands -/

/-- The colour of a verdict. -/
def colourOf (v : Verdict) : String :=
  if v.valid then "green" else if v.timedOut then "yellow" else "red"

/-- A verdict as markup. -/
def verdictMarkup (v : Verdict) : String :=
  "[" ++ colourOf v ++ "]" ++ escapeText v.report ++ "[/" ++ colourOf v ++ "]"

/-- The deadline after so many milliseconds, if it is not too far away. -/
def deadlineAfter (milliseconds : Nat) : Except Failure Deadline :=
  let x := Text.scaled milliseconds (-3)
  if x.isInf then .error .overflow else .ok (.seconds x)

/-- The exit code for messages all of which are valid, or not all. -/
def exitCode (valid : Bool) : Nat := if valid then 0 else 1

/-- The text of the input with line feeds as the only line breaks. -/
def inputText (s : Setup) : String := String.ofList (Text.universalNewlines s.input.toList)

/-- Validates one message. -/
def validate (s : Setup) (i : Invocation) (words : List String) (file : Option Path)
    (timeout : Option Nat) : Job Unit := do
  let loaded ← Job.orConfigFault (Config.load s.surroundings i.config none)
  let deadline ← match timeout with
    | some n => do pure (some (← Job.ofExcept (deadlineAfter n)))
    | none => pure none
  let v ← buildValidator s i.verbose loaded.config
  let timing := v.rules.standstill v.workers
  let (result, told, _) ← match file with
    | some p => do
      let bytes ← Job.ofExcept ((← Job.files).read p)
      pure (v.validateFile (some bytes) deadline timing)
    | none =>
      let message :=
        if words.isEmpty then stripComments commentMark (inputText s)
        else Text.joinWith " " words
      pure (v.validate message deadline timing)
  told.forM (deliver s.clock (logOf s loaded.config))
  let verdict ← Job.ofExcept result
  Job.print (verdictMarkup verdict)
  Job.exit (exitCode verdict.valid)

/-- The state of a commit as markup. -/
def statusMarkup (v : Verdict) : String :=
  if v.ignored then "[dim]skipped[/dim]"
  else if v.valid then "[green]valid[/green]"
  else if v.timedOut then "[yellow]inconclusive[/yellow]"
  else "[red]invalid[/red]"

/-- The row of a commit in the table of a report.  A summary that is not known to be well formed
cannot be shown. -/
def checkRow (c : CommitCheck) : Except Failure (List String) :=
  match c.record.summary with
  | .text s =>
    .ok [c.record.shortSha, escapeText s, statusMarkup c.verdict,
      Text.joinWith "\n" (c.verdict.violations.map fun v => escapeText v.text)]
  | .bytes _ => .error .badType

/-- The columns of the table of a report. -/
def reportColumns : List Column :=
  [⟨"Commit", false⟩, ⟨"Summary", true⟩, ⟨"Status", false⟩, ⟨"Violations", true⟩]

/-- Prints a report; commits with valid messages are in the table only if `verbose` holds. -/
def printReport (verbose : Bool) (r : RangeReport) : Job Unit := do
  let shown := r.checks.filter fun c => verbose || !c.verdict.valid
  let rows ← Job.ofExcept (shown.mapM checkRow)
  if rows.isEmpty then pure ()
  else
    Job.write (← Job.ofExcept
      (printedTable consoleWidth ("Commits in " ++ r.range) reportColumns rows))
  Job.print r.summary

/-- A job in which a bad argument, such as a range that cannot be resolved, and an interruption by
the user end the run. -/
def orRangeFault {α : Type} (job : Job α) : Job α :=
  tryCatch job fun
    | .failed (.argument text) => do
      Job.printError ("[red]Error: " ++ escapeText text ++ "[/red]")
      Job.exit 2
    | .failed .interrupted => do
      Job.printError "\n[yellow]Operation cancelled by user[/yellow]"
      Job.writeError "Aborted!\n"
      Job.exit 1
    | stop => throw stop

/-- Makes the report on the commits in a range, and finds what the observers are to be told. -/
def makeReport (s : Setup) (verbose : Bool) (query : RangeQuery) (directory : Path) (c : Config) :
    Job (RangeReport × List (Notice Observer)) := do
  let repository ← Job.ofExcept (s.repository.open? directory.text)
  let v ← buildValidator s verbose c
  let records ← Job.ofExcept (repository.collect query)
  -- There is no deadline, so every message gets a verdict.
  let (result, told, _) := v.checkRange (v.rules.standstill v.workers) query.range records
  pure (← Job.ofExcept result, told)

/-- Tells the observers of a report what they are to be told, and prints the report. -/
def showReport (s : Setup) (verbose : Bool) (c : Config) (report : RangeReport)
    (told : List (Notice Observer)) : Job Unit := do
  orRangeFault (told.forM (deliver s.clock (logOf s c)))
  printReport verbose report

/-- Validates the messages of the commits in a range. -/
def checkRange (s : Setup) (i : Invocation) (query : RangeQuery) (directory : Path) :
    Job Unit := do
  let directory := s.surroundings.files.workingDirectory.join directory
  let loaded ← Job.orConfigFault (Config.load s.surroundings i.config (some directory))
  let (report, told) ← orRangeFault (makeReport s i.verbose query directory loaded.config)
  showReport s i.verbose loaded.config report told
  Job.exit (exitCode report.ok)

/-- Writes a configuration file. -/
def init (s : Setup) (target : Option Path) (enterprise force : Bool) : Job Unit := do
  let target := target.getD ⟨"", [Config.settingsName]⟩
  if (← Job.files).contains target && !force then
    Job.printError ("[yellow]" ++ escapeText target.text
      ++ " already exists; use --force to overwrite it[/yellow]")
    Job.exit 1
  let env := s.surroundings.environment
  let c ← Job.ofExcept (if enterprise then Config.enterprise env else Config.ofEnvironment env)
  Job.changeFiles fun files => c.save files target
  Job.print ("[green]Created " ++ (if enterprise then "enterprise" else "default")
    ++ " configuration:[/green] " ++ escapeText target.text)

/-- Puts the path of the configuration file on the clipboard; the file is made if it is missing. -/
def copyConfigPath (s : Setup) (loaded : LoadedConfig) : Job Unit := do
  let p := loaded.source.getD
    (s.surroundings.files.workingDirectory.join ⟨"", [Config.settingsName]⟩)
  if !(← Job.files).contains p then
    Job.changeFiles fun files => loaded.config.save files p
    Job.print "[yellow]Created new config file with default values[/yellow]"
  Job.copy p.text
  Job.print ("[green]Config file location:[/green] " ++ escapeText p.text)
  Job.print "[green]Path copied to clipboard![/green]"

/-- Shows the configuration, or where it is. -/
def showConfig (s : Setup) (i : Invocation) (copyPath : Bool) : Job Unit := do
  let loaded ← Job.orConfigFault (Config.load s.surroundings i.config none)
  if copyPath then copyConfigPath s loaded
  else
    match loaded.source with
    | some p => Job.print ("[dim]Config file: " ++ escapeText p.text ++ "[/dim]")
    | none => Job.print "[dim]Using default values (no config file found)[/dim]"
    let rows := loaded.config.display.map fun (name, value) => [name, escapeText value]
    Job.write (← Job.ofExcept (printedTable consoleWidth "Current Configuration Settings"
      [⟨"Setting", true⟩, ⟨"Value", true⟩] rows))

/-- Does what an invocation asks for. -/
def perform (s : Setup) (i : Invocation) : Job Unit :=
  match i.command with
  | .validate words file timeout => validate s i words file timeout
  | .checkRange range directory maxCount noMerges =>
    checkRange s i ⟨range, maxCount, noMerges⟩ directory
  | .init target enterprise force => init s target enterprise force
  | .config copyPath => showConfig s i copyPath
  | .version => Job.write (Release.panel s.installed s.location.text consoleWidth)
  | .help scope true => Job.write scope.usage
  | .help scope false => do
    Job.writeError scope.usage
    Job.exit 2

/-- What a run ends with: the exit code, the failure that ended it if there was one, and what was
done. -/
structure Outcome where
  exitCode : Nat
  failure : Option Failure
  effects : Effects

/-- Runs a job from the start. -/
def Job.outcome (job : Job Unit) (files : FileTree) : Outcome :=
  match job.run.run ⟨files, "", "", []⟩ with
  | (.ok (), e) => ⟨0, none, e⟩
  | (.error (.exit code), e) => ⟨code, none, e⟩
  | (.error (.failed f), e) => ⟨1, some f, e⟩

/-- Runs the program. -/
def run (s : Setup) (args : List String) : Outcome :=
  let files := s.surroundings.files
  match Invocation.read files args with
  | .ok i => (perform s i).outcome files
  | .error (scope, problem) => ⟨2, none, ⟨files, "", problem.report scope, []⟩⟩

end CommitPolicy.CommandLine
