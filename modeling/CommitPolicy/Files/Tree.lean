import CommitPolicy.Failure
import CommitPolicy.Files.Path

/-!
# File trees

A file tree holds directories and files under their names from the root on, and a working directory
from which relative paths are followed.  A pair of dots leads from a directory to the one that holds
it.
-/

namespace CommitPolicy

/-- What a name in a file tree stands for. -/
inductive Entry where
  | directory
  | file (bytes : List UInt8)
  deriving DecidableEq, Repr

/-- Directories and files by the names that lead to them from the root, and the working
directory. -/
structure FileTree where
  entries : List (List String × Entry)
  workingDirectory : Path

namespace FileTree

/-- What is found under the given names. -/
def at? (t : FileTree) (names : List String) : Option Entry :=
  if names.isEmpty then some .directory else t.entries.lookup names

/-- The tree with an entry put under the given names. -/
def put (t : FileTree) (names : List String) (e : Entry) : FileTree :=
  if (t.at? names).isSome then
    { t with entries := t.entries.map fun (n, old) => (n, if n = names then e else old) }
  else { t with entries := t.entries ++ [(names, e)] }

/-- Follows the components of a path from a directory on. -/
def walk (t : FileTree) : List String → List String → Except Failure (List String)
  | here, [] => .ok here
  | here, name :: rest =>
    match t.at? here with
    | none => .error .fileNotFound
    | some (.file _) => .error .notDirectory
    | some .directory => t.walk (if name = ".." then here.dropLast else here ++ [name]) rest

/-- The names from the root that a path leads to; all but the last are names of directories. -/
def locate (t : FileTree) (p : Path) : Except Failure (List String) :=
  t.walk [] (t.workingDirectory.join p).parts

/-- What a path leads to. -/
def find? (t : FileTree) (p : Path) : Option Entry :=
  match t.locate p with
  | .ok names => t.at? names
  | .error _ => none

/-- Whether a path leads to a file. -/
def isFile (t : FileTree) (p : Path) : Bool :=
  match t.find? p with
  | some (.file _) => true
  | _ => false

/-- Whether a path leads to a directory. -/
def isDirectory (t : FileTree) (p : Path) : Bool := t.find? p == some .directory

/-- Whether a path leads to anything. -/
def contains (t : FileTree) (p : Path) : Bool := (t.find? p).isSome

/-- The bytes of the file that a path leads to. -/
def read (t : FileTree) (p : Path) : Except Failure (List UInt8) := do
  match t.at? (← t.locate p) with
  | some (.file bytes) => .ok bytes
  | some .directory => .error .isDirectory
  | none => .error .fileNotFound

/-- The tree with a file written where a path leads to, over any file that is there. -/
def write (t : FileTree) (p : Path) (bytes : List UInt8) : Except Failure FileTree := do
  let names ← t.locate p
  match t.at? names with
  | some .directory => .error .isDirectory
  | _ => .ok (t.put names (.file bytes))

/-- The tree with bytes added to the end of a file, which is made if it is not there. -/
def append (t : FileTree) (p : Path) (bytes : List UInt8) : Except Failure FileTree := do
  let names ← t.locate p
  match t.at? names with
  | some .directory => .error .isDirectory
  | some (.file old) => .ok (t.put names (.file (old ++ bytes)))
  | none => .ok (t.put names (.file bytes))

/-- The tree with a new directory where a path leads to. -/
def makeDirectory (t : FileTree) (p : Path) : Except Failure FileTree := do
  let names ← t.locate p
  match t.at? names with
  | some _ => .error .fileExists
  | none => .ok (t.put names .directory)

/-- The outcome of making a directory in `t`, where one that is already there will do. -/
def acceptDirectory (t : FileTree) (p : Path) : Except Failure FileTree → Except Failure FileTree
  | .ok t => .ok t
  | .error f => if t.isDirectory p then .ok t else .error f

/-- The tree with a directory where a path leads to, if there is not one already; the directories on
the way are made too, at most `depth` of them. -/
def makeDirectories (t : FileTree) (p : Path) : (depth : Nat) → Except Failure FileTree
  | 0 => t.acceptDirectory p (t.makeDirectory p)
  | depth + 1 =>
    match t.makeDirectory p with
    | .error .fileNotFound => do
      let t ← t.makeDirectories p.parent depth
      t.acceptDirectory p (t.makeDirectory p)
    | made => t.acceptDirectory p made

/-- The tree with the directories that lead to a path. -/
def makeParents (t : FileTree) (p : Path) : Except Failure FileTree :=
  t.makeDirectories p.parent p.parts.length

/-- The files of a tree that are new or have other bytes than before, by their names from the
root. -/
def changes (before after : FileTree) : List (List String × List UInt8) :=
  after.entries.filterMap fun (names, e) =>
    match e with
    | .file bytes => if before.at? names = some e then none else some (names, bytes)
    | .directory => none

end FileTree

end CommitPolicy
