import CommitPolicy.Pattern.Match
import CommitPolicy.Pattern.Reader
import CommitPolicy.ReadingLimits

/-!
# Patterns

A pattern is the text it was written as and the tree that was read from it.  `Pattern.compile` reads
a pattern or says why it is refused, and `Pattern.search` looks for it anywhere in a text.
-/

namespace CommitPolicy

/-- A pattern that has been read. -/
structure Pattern where
  source : String
  node : Pattern.Node

namespace Pattern

/-- Reads a pattern. -/
def compile (source : String) : Except Refusal Pattern :=
  (parse source).map fun node => ⟨source, node⟩

/-- Reads a pattern if the stack has room for its groups. -/
def compileWithin [ReadingLimits] (source : String) : Except Refusal Pattern :=
  if ReadingLimits.exhaustsPattern source then .error .tooDeep else compile source

/-- Whether the pattern matches anywhere in a text. -/
def search (p : Pattern) (text : String) : Bool := p.node.found text.toList.toArray

end Pattern

end CommitPolicy
