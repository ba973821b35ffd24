import CommitPolicy.Text.Lines
import CommitPolicy.Text.Quoted
import CommitPolicy.Text.Similar

/-!
# Options and words

The arguments of a command are options and words.  A long option starts with two hyphens and can have
its value after an equals sign; short options can be written together after one hyphen, the last one
with its value.  Two hyphens alone end the options.
-/

namespace CommitPolicy.CommandLine

open Text

/-- The options of the program and of its commands. -/
inductive OptionName where
  | config
  | verbose
  | messageFile
  | timeout
  | repository
  | maxCount
  | noMerges
  | workers
  | target
  | enterprise
  | force
  | copyPath
  | help
  deriving DecidableEq, Repr

namespace OptionName

/-- The spellings of an option. -/
def spellings : OptionName → List String
  | config => ["--config"]
  | verbose => ["-v", "--verbose"]
  | messageFile => ["-f", "--file"]
  | timeout => ["--timeout"]
  | repository => ["-p", "--path"]
  | maxCount => ["-n", "--max-count"]
  | noMerges => ["--no-merges"]
  | workers => ["-w", "--workers"]
  | target => ["-p", "--path"]
  | enterprise => ["--enterprise"]
  | force => ["--force"]
  | copyPath => ["--copy-path"]
  | help => ["--help"]

/-- Whether an option has a value. -/
def takesValue : OptionName → Bool
  | config | messageFile | timeout | repository | maxCount | workers | target => true
  | verbose | noMerges | enterprise | force | copyPath | help => false

/-- The option of a spelling, out of some options. -/
def find? (options : List OptionName) (spelling : String) : Option OptionName :=
  options.find? fun o => o.spellings.contains spelling

/-- The long spellings of some options. -/
def longSpellings (options : List OptionName) : List String :=
  (options.flatMap spellings).filter fun s => s.startsWith "--"

end OptionName

/-- What is wrong with the arguments of a command. -/
inductive UsageProblem where
  | noSuchOption (spelling : String) (similar : List String)
  | missingValue (spelling : String)
  | unwantedValue (spelling : String)
  | badValue (option : OptionName) (text : String)
  | extraWords (words : List String)
  | noSuchCommand (name : String) (similar : List String)
  | missingCommand
  deriving DecidableEq, Repr

/-- The arguments of a command: the options that were given, each with its value, which is empty for
an option without one, and the words. -/
structure Arguments where
  options : List (OptionName × String)
  words : List String
  deriving DecidableEq, Repr

namespace Arguments

/-- The arguments with one more option at the start. -/
def withOption (o : OptionName) (value : String) (a : Arguments) : Arguments :=
  { a with options := (o, value) :: a.options }

/-- The arguments with one more word at the start. -/
def withWord (word : String) (a : Arguments) : Arguments := { a with words := word :: a.words }

/-- The options written together after a hyphen, and the one among them whose value is the next
argument, if there is one. -/
def readShort (options : List OptionName) :
    List Char → Except UsageProblem (List (OptionName × String) × Option (OptionName × String))
  | [] => .ok ([], none)
  | c :: rest =>
    let spelling := String.ofList ['-', c]
    match OptionName.find? options spelling with
    | none => .error (.noSuchOption spelling [])
    | some o =>
      if !o.takesValue then
        (readShort options rest).map fun (given, waiting) => ((o, "") :: given, waiting)
      else if rest.isEmpty then .ok ([], some (o, spelling))
      else .ok ([(o, String.ofList rest)], none)

/-- Whether an argument is written as an option. -/
def isOption (arg : String) : Bool := arg.startsWith "-" && arg != "-"

/-- The spelling of a long option, and the value after the equals sign if there is one. -/
def splitLong (arg : String) : String × Option String :=
  let spelling := arg.toList.takeWhile (· != '=')
  match arg.toList.drop spelling.length with
  | [] => (arg, none)
  | _ :: value => (String.ofList spelling, some (String.ofList value))

/-- Reads arguments.  Unless `mixed` holds, the options end at the first word. -/
def read (options : List OptionName) (mixed : Bool) :
    List String → Except UsageProblem Arguments
  | [] => .ok ⟨[], []⟩
  | arg :: rest =>
    if arg = "--" then .ok ⟨[], rest⟩
    else if !isOption arg then
      if mixed then (read options mixed rest).map (withWord arg) else .ok ⟨[], arg :: rest⟩
    else if arg.startsWith "--" then
      let (spelling, value) := splitLong arg
      match OptionName.find? options spelling, value with
      | none, _ =>
        .error (.noSuchOption spelling (similarTo spelling (OptionName.longSpellings options)))
      | some o, some value =>
        if o.takesValue then (read options mixed rest).map (withOption o value)
        else .error (.unwantedValue spelling)
      | some o, none =>
        if !o.takesValue then (read options mixed rest).map (withOption o "")
        else
          match rest with
          | [] => .error (.missingValue spelling)
          | value :: rest => (read options mixed rest).map (withOption o value)
    else
      match readShort options (arg.toList.drop 1) with
      | .error p => .error p
      | .ok (given, none) =>
        (read options mixed rest).map fun a => { a with options := given ++ a.options }
      | .ok (given, some (o, spelling)) =>
        match rest with
        | [] => .error (.missingValue spelling)
        | value :: rest =>
          (read options mixed rest).map fun a =>
            { a with options := given ++ (o, value) :: a.options }

/-- The last value that was given for an option. -/
def value? (a : Arguments) (o : OptionName) : Option String :=
  (a.options.filter fun given => given.1 = o).getLast?.map (·.2)

/-- Whether an option was given. -/
def has (a : Arguments) (o : OptionName) : Bool := (a.value? o).isSome

end Arguments

end CommitPolicy.CommandLine
