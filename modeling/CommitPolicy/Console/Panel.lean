import CommitPolicy.Console.Wrap

/-!
# Panels

A panel is a text in a frame as wide as the console, with a title in the upper border.
-/

namespace CommitPolicy.Console

/-- The upper border of a panel `width` cells wide, with a title in its middle if there is room for
one. -/
def panelTop (width : Nat) (title : List Char) : List Char :=
  if width ≤ 4 then '╭' :: List.replicate (width - 2) '─' ++ ['╮']
  else
    let shown := cutLine (width - 4) false (' ' :: title ++ [' '])
    let free := width - 4 - cells shown
    let left := free / 2
    '╭' :: '─' :: List.replicate left '─' ++ shown ++ List.replicate (free - left) '─' ++ ['─', '╮']

/-- The lines of a panel `width` cells wide. -/
def drawPanel (width : Nat) (title text : List Char) : List (List Char) :=
  [panelTop width title]
    ++ (foldedLines (width - 4) text).map
      (fun line => '│' :: ' ' :: fitCells (width - 4) line ++ [' ', '│'])
    ++ ['╰' :: List.replicate (width - 2) '─' ++ ['╯']]

end CommitPolicy.Console
