import CommitPolicy.Text.Lines

/-!
# Paths

A path is a root and components.  Empty components and single dots are dropped when a path is read,
pairs of dots are kept.  One or more than two leading slashes make the root of the file system,
exactly two a root of their own.
-/

namespace CommitPolicy

open Text

/-- A path: the leading slashes, none for a relative path, and the components. -/
structure Path where
  root : String
  parts : List String
  deriving DecidableEq, Repr

namespace Path

/-- The leading slashes of a path as they are kept. -/
def rootOf (s : List Char) : String :=
  match (s.takeWhile (· == '/')).length with
  | 0 => ""
  | 2 => "//"
  | _ => "/"

/-- The components of a path. -/
def partsOf (s : List Char) : List String :=
  ((splitAt '/' s).map String.ofList).filter fun p => !p.isEmpty && p != "."

/-- Reads a path. -/
def ofString (s : String) : Path := ⟨rootOf s.toList, partsOf s.toList⟩

/-- The path as text; a single dot stands for a relative path without components. -/
def text (p : Path) : String :=
  if p.root.isEmpty && p.parts.isEmpty then "." else p.root ++ joinWith "/" p.parts

/-- Whether the path starts at a root. -/
def isAbsolute (p : Path) : Bool := !p.root.isEmpty

/-- The path `q` seen from `p`; a path that starts at a root stays as it is. -/
def join (p q : Path) : Path := if q.isAbsolute then q else ⟨p.root, p.parts ++ q.parts⟩

/-- The directory that holds what the path leads to. -/
def parent (p : Path) : Path := ⟨p.root, p.parts.dropLast⟩

/-- The last component, empty if there is none. -/
def name (p : Path) : String := p.parts.getLast?.getD ""

/-- The part of the last component from its last dot on, unless the dot starts or ends it. -/
def suffix (p : Path) : String :=
  let name := p.name.toList
  let tail := (name.reverse.takeWhile (· != '.')).reverse
  if tail.isEmpty || tail.length + 1 ≥ name.length then "" else String.ofList ('.' :: tail)

end Path

end CommitPolicy
