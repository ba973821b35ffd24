import CommitPolicy.Yaml.Cursor

/-!
# Limits of reading

The rules of a format say what a text means.  Whether it is read at all depends on the machine,
too: what is nested is read by recursion, on a stack that has an end, and a file is read piece by
piece, so that a reader can stop at a fault before it comes to a piece that cannot be read.  Where
the stack ends and how long the pieces are is left open.
-/

namespace CommitPolicy

/-- What stops the reader of a YAML document before it has seen the whole file. -/
inductive Yaml.EarlyStop where
  | fault (f : Fault)
  /-- The stack has no room for what has been seen. -/
  | tooDeep

/-- What reading depends on besides a text and the rules of its format. -/
class ReadingLimits where
  /-- A text that is nested too deeply to be read as a pattern. -/
  exhaustsPattern : String → Bool
  /-- A text that is nested too deeply to be read as a TOML document. -/
  exhaustsToml : String → Bool
  /-- A text that is nested too deeply to be read as a YAML document. -/
  exhaustsYaml : String → Bool
  /-- What stops the reader of a YAML document before the first piece of a file that cannot be
  read. -/
  earlyStop? : List UInt8 → Option Yaml.EarlyStop

/-- The stack has no end, and every file is read in one piece. -/
instance (priority := low) boundless : ReadingLimits where
  exhaustsPattern _ := false
  exhaustsToml _ := false
  exhaustsYaml _ := false
  earlyStop? _ := none

end CommitPolicy
