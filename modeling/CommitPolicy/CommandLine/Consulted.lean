import CommitPolicy.CommandLine.Run

/-!
# What a run consults

A run sees a file tree that was gathered before.  These are the names in it that the outcome can
depend on, as far as they follow from the arguments, and whether the input is read.
-/

namespace CommitPolicy.CommandLine

/-- The names from the root that a path leads to if no directory on the way is a link. -/
def namesOf (workingDirectory p : Path) : List String :=
  (workingDirectory.join p).parts.foldl
    (fun names part => if part = ".." then names.dropLast else names ++ [part]) []

/-- All starts of the given names, the shortest one first. -/
def starts (names : List String) : List (List String) :=
  (List.range names.length).map fun n => names.take (n + 1)

/-- The paths that an argument can stand for: all of it, what follows an equals sign, and what
follows a short option. -/
def pathsIn (arg : String) : List Path :=
  let value := (arg.toList.dropWhile (· != '=')).drop 1
  [arg, String.ofList value, String.ofList (arg.toList.drop 2)].map Path.ofString

/-- The names that a run with the given arguments can depend on. -/
def consulted (workingDirectory home : Path) (args : List String) : List (List String) :=
  let directories := ⟨"", []⟩ :: args.flatMap pathsIn
  let paths := directories ++ [home.join Config.userSettings]
    ++ directories.flatMap fun d =>
      [d.join ⟨"", [Config.settingsName]⟩, d.join ⟨"", [Config.projectName]⟩]
  paths.flatMap fun p => starts (namesOf workingDirectory p)

/-- Whether the message is read from the input. -/
def readsInput (files : FileTree) (args : List String) : Bool :=
  match Invocation.read files args with
  | .ok ⟨_, _, .validate [] none _⟩ => true
  | _ => false

/-- What was changed without having been looked at before. -/
def unseen (files : FileTree) (r : Outcome) : List (List String) :=
  ((files.changes r.effects.files).map (·.1)).flatMap starts

end CommitPolicy.CommandLine
