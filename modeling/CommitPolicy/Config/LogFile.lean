import CommitPolicy.Config.Basic
import CommitPolicy.Files.Path

/-!
# The log file

The path of the log file comes from a file or from the environment, so control characters are taken
out of it, and it is used only if it stays inside the working directory.
-/

namespace CommitPolicy

open Text

/-- The control characters except tab, line feed and carriage return. -/
def isControl (c : Char) : Bool :=
  let n := c.toNat
  n ≤ 8 || n = 0xB || n = 0xC || (0xE ≤ n && n ≤ 0x1F) || n = 0x7F

/-- The number of characters that a sanitized text can have. -/
def maxTextLength : Nat := 1000

/-- A text without control characters, cut to the largest length, without white space at the
ends. -/
def sanitize (s : String) : String :=
  String.ofList (trim ((s.toList.filter fun c => !isControl c).take maxTextLength))

/-- Whether a path is relative and does not lead up. -/
def isSafePath (s : String) : Bool :=
  let text := s.toList
  !text.isEmpty && !contains "..".toList text && text.head? != some '/' && !text.contains '\\'

namespace Config

/-- The directory of the logs that are named for the time. -/
def logDirectory : String := ".fast-cc"

/-- The path of the log file, if the configuration asks for one; `time` names the log when every
validation is logged. -/
def logPath (c : Config) (time : String) : Option Path :=
  if c.alwaysLog then some ⟨"", [logDirectory, "fcc_log-" ++ time ++ ".log"]⟩
  else
    match c.logFile with
    | some s => if isSafePath s then some (Path.ofString s) else none
    | none => none

end Config

end CommitPolicy
