import CommitPolicy.Text.Lines

/-!
# Comments in a message file

A message file that an editor was opened on holds comment lines, and below a scissors line the diff
of the commit.  `stripComments` keeps the message.
-/

namespace CommitPolicy

open Text

/-- A comment line, after white space, starts with the comment mark. -/
def isComment (mark line : List Char) : Bool := mark.isPrefixOf (trimLeft line)

/-- A scissors line is a comment line that holds a pair of scissors and dashes. -/
def isScissors (mark line : List Char) : Bool :=
  isComment mark line && contains ">8".toList (trimLeft line)
    && contains "---".toList (trimLeft line)

/-- The message in the text of a message file: the lines above the scissors line that are no
comments, without white space at the ends. -/
def stripComments (mark content : String) : String :=
  let lines := (splitLines (unixNewlines content.toList)).takeWhile
    fun line => !isScissors mark.toList line
  String.ofList (trim (joinLines (lines.filter fun line => !isComment mark.toList line)))

/-- The mark that starts a comment line. -/
def commentMark : String := "#"

end CommitPolicy
