import CommitPolicy.Console.Markup
import CommitPolicy.Console.Table

/-!
# Printing

What the console shows of markup and of tables.
-/

namespace CommitPolicy.Console

open Text

/-- The cells of a line of the console. -/
def consoleWidth : Nat := 200

/-- Lines as a text, each one ended by a line feed. -/
def endLines (lines : List (List Char)) : String :=
  String.ofList (lines.flatMap fun line => line ++ ['\n'])

/-- The text of markup without control characters. -/
def shown (markup : String) : Except Failure (List Char) := (render markup.toList).map dropControls

/-- What is printed of markup whose long lines are left as they are. -/
def printed (markup : String) : Except Failure String :=
  (shown markup).map fun s => endLines (plainLines s)

/-- What is printed of markup whose long lines are broken. -/
def printedWrapped (width : Nat) (markup : String) : Except Failure String :=
  (shown markup).map fun s => endLines (foldedLines width s)

/-- What is printed of a table with a title, columns and rows of cells in markup. -/
def printedTable (width : Nat) (title : String) (columns : List Column)
    (rows : List (List String)) : Except Failure String := do
  let rows ← rows.mapM fun row => row.mapM shown
  let title ← shown title
  .ok (endLines (Table.draw ⟨title, columns, rows⟩ width))

end CommitPolicy.Console
