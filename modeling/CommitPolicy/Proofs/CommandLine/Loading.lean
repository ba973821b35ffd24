import CommitPolicy.Proofs.CommandLine.ExitCode
import CommitPolicy.Proofs.Config.Mishap
import CommitPolicy.Proofs.Console.Markup
import CommitPolicy.Proofs.Text.Utf8

/-!
# Runs that cannot load their configuration

A command that loads a configuration does so before anything else.  If that fails, the run ends
there: with exit code 2 after a message, if there is a configuration error, and with the failure
itself, which makes exit code 1, if there was a mishap.
-/

namespace CommitPolicy.CommandLine

open Console

/-! ### Configuration errors -/

theorem isStyle_red :
  IsStyle "red".toList
  := by
  constructor
  · decide
  · decide

/-- A configuration error can be printed, whatever its message is. -/
theorem exists_printed_configError (e : ConfigError) :
  ∃ text, printed ("[red]Configuration error: " ++ escapeText e.message ++ "[/red]") = .ok text
  := by
  have hplain : ("Configuration error: ".toList.all fun c => c != '\\' && c != '[') = true := by
    decide
  apply exists_printed_escapeText isStyle_red hplain e.message

namespace Job

variable {α : Type}

/-- A configuration error ends a job with exit code 2. -/
theorem result_of_config (e : ConfigError) (before : Effects) :
  ∃ after, (Job.orConfigFault (.error (.config e)) : Job α).result before
    = (.error (.exit 2), after)
  := by
  obtain ⟨text, htext⟩ := exists_printed_configError e
  use { before with errors := before.errors ++ text }
  rw [Job.orConfigFault, Job.configFault, result_bind, Job.printError, htext]
  rfl

/-- Any other failure ends a job as it is. -/
theorem result_of_ne_config {f : Failure} (hf : ∀ e, f ≠ .config e) (before : Effects) :
  (Job.orConfigFault (.error f) : Job α).result before = (.error (.failed f), before)
  := by
  cases f with
  | config e => cases hf e rfl
  | _ => rfl

/-- A job that stops at its first step comes to nothing else. -/
theorem outcome_bind {job : Job α} {k : α → Job Unit} {files : FileTree} {stop : Stop}
    {after : Effects} (h : job.result ⟨files, "", "", []⟩ = (.error stop, after)) :
  (job >>= k).outcome files
    = match stop with
      | .exit code => ⟨code, none, after⟩
      | .failed f => ⟨1, some f, after⟩
  := by
  have hbind := result_bind job k ⟨files, "", "", []⟩
  rw [h, result] at hbind
  rw [outcome, hbind]
  cases stop with
  | exit code => rfl
  | failed f => rfl

end Job

/-! ### Commands that load a configuration -/

/-- The command loads the configuration that holds in the directory, if a directory is given. -/
inductive Loads (s : Setup) : Command → Option Path → Prop where
  | validate (words : List String) (file : Option Path) (timeout : Option Nat) :
      Loads s (.validate words file timeout) none
  | checkRange (range : String) (directory : Path) (maxCount : Option Nat) (noMerges : Bool) :
      Loads s (.checkRange range directory maxCount noMerges)
        (some (s.surroundings.files.workingDirectory.join directory))
  | config (copyPath : Bool) : Loads s (.config copyPath) none

section Run

variable [ReadingLimits]

theorem exists_perform_eq {s : Setup} {i : Invocation} {directory : Option Path}
    (h : Loads s i.command directory) :
  ∃ k, perform s i = Job.orConfigFault (Config.load s.surroundings i.config directory) >>= k
  := by
  rw [perform]
  generalize i.command = command at h
  cases h with
  | validate => exact ⟨_, rfl⟩
  | checkRange => exact ⟨_, rfl⟩
  | config => exact ⟨_, rfl⟩

theorem run_eq {s : Setup} {args : List String} {i : Invocation}
    (hargs : Invocation.read s.surroundings.files args = .ok i) :
  run s args = (perform s i).outcome s.surroundings.files
  := by
  rw [run, hargs]

variable {s : Setup} {args : List String} {i : Invocation} {directory : Option Path}
  (hargs : Invocation.read s.surroundings.files args = .ok i)
  (hloads : Loads s i.command directory)
include hargs hloads

theorem run_of_config_error {e : ConfigError}
    (hload : Config.load s.surroundings i.config directory = .error (.config e)) :
  (run s args).exitCode = 2 ∧ (run s args).failure = none
  := by
  obtain ⟨k, hk⟩ := exists_perform_eq hloads
  obtain ⟨after, hafter⟩ :=
    Job.result_of_config (α := LoadedConfig) e ⟨s.surroundings.files, "", "", []⟩
  rw [run_eq hargs, hk, hload, Job.outcome_bind hafter]
  exact ⟨rfl, rfl⟩

theorem run_of_failure {f : Failure} (hf : ∀ e, f ≠ .config e)
    (hload : Config.load s.surroundings i.config directory = .error f) :
  (run s args).exitCode = 1 ∧ (run s args).failure = some f
  := by
  obtain ⟨k, hk⟩ := exists_perform_eq hloads
  rw [run_eq hargs, hk, hload, Job.outcome_bind (Job.result_of_ne_config hf _)]
  exact ⟨rfl, rfl⟩

end Run

/-- The settings file of the working directory has these bytes. -/
def holding (bytes : List UInt8) : Setup where
  surroundings :=
    ⟨⟨[(["work"], .directory), (["work", ".fast-cc-hooks.yaml"], .file bytes)], ⟨"/", ["work"]⟩⟩,
      ⟨"/", ["work"]⟩, []⟩
  input := ""
  repository := .missing
  clock := ⟨"", ""⟩
  installed := none
  location := ⟨"/", []⟩

/-- The settings file is no text. -/
def garbled : Setup := holding [0xFF, 0xFE]

/-- The start of a thousand lists inside one another. -/
def brackets : String := String.ofList (List.replicate 1000 '[')

/-- The settings file starts so many lists. -/
def nested : Setup := holding (Text.encode brackets)

/-- The stack has room for a hundred lists inside one another. -/
@[reducible]
def shallow : ReadingLimits where
  exhaustsPattern _ := false
  exhaustsToml _ := false
  exhaustsYaml text := 100 < text.toList.count '['
  earlyStop? _ := none

end CommitPolicy.CommandLine
