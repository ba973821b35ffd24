import CommitPolicy.CommandLine.Arguments

/-!
# Usage errors

The commands of the program, with the options that each one takes, and what is said about arguments
that do not fit them.
-/

namespace CommitPolicy.CommandLine

open Text

/-- The commands. -/
inductive CommandName where
  | validate
  | checkRange
  | init
  | config
  | version
  deriving DecidableEq, Repr

namespace CommandName

/-- How a command is called. -/
def text : CommandName → String
  | validate => "validate"
  | checkRange => "check-range"
  | init => "init"
  | config => "config"
  | version => "version"

/-- All commands. -/
def all : List CommandName := [validate, checkRange, init, config, version]

/-- The command that is called so. -/
def ofText? (s : String) : Option CommandName := all.find? fun c => c.text = s

/-- The options that a command takes. -/
def options : CommandName → List OptionName
  | validate => [.messageFile, .timeout, .help]
  | checkRange => [.repository, .maxCount, .noMerges, .workers, .help]
  | init => [.target, .enterprise, .force, .help]
  | config => [.copyPath, .help]
  | version => [.help]

/-- The words that a command takes, as they are shown in its usage. -/
def wordPattern : CommandName → String
  | validate => " [MESSAGE]..."
  | checkRange => " [REV_RANGE]"
  | init | config | version => ""

end CommandName

/-- The options that are given before the command. -/
def mainOptions : List OptionName := [.config, .verbose, .help]

/-- What arguments belong to: the program, or one of its commands. -/
abbrev Scope := Option CommandName

/-- How the program is called for a scope. -/
def Scope.call (scope : Scope) : String :=
  match scope with
  | none => "main"
  | some c => "main " ++ c.text

/-- The usage of a scope in one line. -/
def Scope.usage (scope : Scope) : String :=
  "Usage: " ++ scope.call ++ match scope with
    | none => " [OPTIONS] COMMAND [ARGS]...\n"
    | some c => " [OPTIONS]" ++ c.wordPattern ++ "\n"

namespace UsageProblem

/-- The names that might have been meant. -/
def suggestion (similar : List String) : String :=
  match similar with
  | [] => ""
  | [s] => " Did you mean " ++ quoted s ++ "?"
  | ss => " (Did you mean one of: " ++ joinWith ", " (ss.map quoted) ++ "?)"

/-- What is wrong. -/
def message : UsageProblem → String
  | noSuchOption spelling similar =>
    "No such option " ++ quoted spelling ++ "." ++ suggestion similar
  | missingValue spelling => "Option " ++ quoted spelling ++ " requires an argument."
  | unwantedValue spelling => "Option " ++ quoted spelling ++ " does not take a value."
  | badValue o text =>
    "Invalid value for " ++ joinWith " / " (o.spellings.map fun s => "'" ++ s ++ "'") ++ ": " ++ text
  | extraWords words =>
    "Got unexpected extra argument" ++ (if words.length = 1 then "" else "s") ++ " ("
      ++ joinWith " " words ++ ")"
  | noSuchCommand name similar => "No such command " ++ quoted name ++ "." ++ suggestion similar
  | missingCommand => "Missing command."

/-- Whether the usage of the command is shown with a problem. -/
def showsUsage : UsageProblem → Bool
  | missingValue _ | unwantedValue _ => false
  | _ => true

/-- A problem with the arguments of a scope as it is shown. -/
def report (scope : Scope) (p : UsageProblem) : String :=
  (if p.showsUsage then
    scope.usage ++ "Try '" ++ scope.call ++ " --help' for help.\n\n" else "")
    ++ "Error: " ++ p.message ++ "\n"

end UsageProblem

end CommitPolicy.CommandLine
