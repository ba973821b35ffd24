import CommitPolicy.CommandLine.Usage
import CommitPolicy.Files.Tree
import CommitPolicy.Text.Integer

/-!
# Invocations

An invocation is what the arguments of the program ask for: a command with its parameters, and the
options that hold for every command.  The options of a command are read first, and then their values
are checked in the order in which the options were given.
-/

namespace CommitPolicy.CommandLine

open Text

/-- A command with its parameters. -/
inductive Command where
  /-- Validate the message in the words, in a file, or else in the input, within so many
  milliseconds. -/
  | validate (words : List String) (file : Option Path) (timeout : Option Nat)
  /-- Validate the messages of the commits in a range. -/
  | checkRange (range : String) (repository : Path) (maxCount : Option Nat) (noMerges : Bool)
  /-- Write a configuration file. -/
  | init (target : Option Path) (enterprise force : Bool)
  /-- Show the configuration, or where it is. -/
  | config (copyPath : Bool)
  /-- Show the version. -/
  | version
  /-- Show the usage of a scope; `asked` tells whether it was asked for. -/
  | help (scope : Scope) (asked : Bool)
  deriving DecidableEq, Repr

/-- What the arguments of the program ask for. -/
structure Invocation where
  config : Option Path
  verbose : Bool
  command : Command
  deriving DecidableEq, Repr

/-! ### Values of options -/

/-- What a path as it is written leads to; one that ends like a directory does not lead to a file. -/
def entryOf? (files : FileTree) (s : String) : Option Entry :=
  if s.isEmpty then none
  else
    match files.find? (Path.ofString s) with
    | some (.file bytes) =>
      if s.endsWith "/" || s.endsWith "/." then none else some (.file bytes)
    | e => e

/-- What is wrong with a number that has to be positive. -/
def numberProblem? (s : String) : Option String :=
  match readInteger? s with
  | some n =>
    if maxDigits < (s.toList.filter fun c => (digitValue? c).isSome).length then
      some (quoted s ++ " is not a valid integer range.")
    else if n < 1 then some (toString n ++ " is not in the range x>=1.")
    else none
  | none => some (quoted s ++ " is not a valid integer range.")

/-- What is wrong with the value of an option. -/
def OptionName.problem? (files : FileTree) (o : OptionName) (s : String) : Option String :=
  match o with
  | config | target =>
    match entryOf? files s with
    | some .directory => some ("File " ++ quoted s ++ " is a directory.")
    | _ => none
  | messageFile =>
    match entryOf? files s with
    | some .directory => some ("File " ++ quoted s ++ " is a directory.")
    | some (.file _) => none
    | none => some ("File " ++ quoted s ++ " does not exist.")
  | repository =>
    match entryOf? files s with
    | some .directory => none
    | some (.file _) => some ("Directory " ++ quoted s ++ " is a file.")
    | none => some ("Directory " ++ quoted s ++ " does not exist.")
  | timeout | maxCount | workers => numberProblem? s
  | verbose | noMerges | enterprise | force | copyPath | help => none

namespace Arguments

/-- The first option whose last value is wrong. -/
def problem? (files : FileTree) (a : Arguments) : Option UsageProblem :=
  a.options.findSome? fun (o, _) =>
    ((a.value? o).bind (o.problem? files)).map (UsageProblem.badValue o)

/-- The path that was given for an option. -/
def path? (a : Arguments) (o : OptionName) : Option Path := (a.value? o).map Path.ofString

/-- The number that was given for an option. -/
def number? (a : Arguments) (o : OptionName) : Option Nat :=
  ((a.value? o).bind readInteger?).map Int.toNat

/-- The arguments of a scope, read and checked. -/
def readChecked (files : FileTree) (scope : Scope) (args : List String) :
    Except UsageProblem Arguments := do
  let a ← match scope with
    | none => read mainOptions false args
    | some c => read c.options true args
  match if a.has .help then none else a.problem? files with
  | some p => .error p
  | none => .ok a

end Arguments

/-! ### Commands -/

/-- The number of words that a command takes at most, unless it takes any number. -/
def CommandName.maxWords? : CommandName → Option Nat
  | validate => none
  | checkRange => some 1
  | init | config | version => some 0

/-- The command of checked arguments. -/
def Command.ofArguments (name : CommandName) (a : Arguments) : Command :=
  match name with
  | .validate => validate a.words (a.path? .messageFile) (a.number? .timeout)
  | .checkRange =>
    checkRange (a.words.head?.getD "HEAD") ((a.path? .repository).getD ⟨"", []⟩)
      (a.number? .maxCount) (a.has .noMerges)
  | .init => init (a.path? .target) (a.has .enterprise) (a.has .force)
  | .config => config (a.has .copyPath)
  | .version => version

/-- Reads the arguments of a command. -/
def Command.read (files : FileTree) (name : CommandName) (args : List String) :
    Except UsageProblem Command := do
  let a ← Arguments.readChecked files (some name) args
  if a.has .help then .ok (help (some name) true)
  else
    let extra := name.maxWords?.elim [] a.words.drop
    if extra.isEmpty then .ok (ofArguments name a) else .error (.extraWords extra)

/-- The problem with a word that calls no command.  A word that does not start with a letter or a
digit is read as an option first. -/
def noCommand (files : FileTree) (word : String) (rest : List String) : UsageProblem :=
  let unknown := UsageProblem.noSuchCommand word (similarTo word (CommandName.all.map (·.text)))
  match Arguments.readChecked files none (word :: rest) with
  | .error p => p
  | .ok _ => unknown

/-- Reads the arguments of the program; a problem is told with the scope that it belongs to. -/
def Invocation.read (files : FileTree) (args : List String) :
    Except (Scope × UsageProblem) Invocation := do
  if args.isEmpty then .ok ⟨none, false, .help none false⟩
  else
    let a ← (Arguments.readChecked files none args).mapError fun p => (none, p)
    let invocation (c : Command) : Invocation := ⟨a.path? .config, a.has .verbose, c⟩
    if a.has .help then .ok (invocation (.help none true))
    else
      match a.words with
      | [] => .error (none, .missingCommand)
      | word :: rest =>
        match CommandName.ofText? word with
        | none => .error (none, noCommand files word rest)
        | some name =>
          ((Command.read files name rest).map invocation).mapError fun p => (some name, p)

end CommitPolicy.CommandLine
