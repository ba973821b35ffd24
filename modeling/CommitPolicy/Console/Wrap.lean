import CommitPolicy.Text.CellWidth
import CommitPolicy.Text.Lines

/-!
# Laying out lines

Text is shown without control characters that would move the cursor, with tabs as blanks up to the
next multiple of eight cells.  A line that is too long is broken before words; a word that is longer
than the width is cut over lines or left to be cut off.
-/

namespace CommitPolicy.Console

open Text

/-- The cells of characters. -/
def cells (s : List Char) : Nat := cellsFrom none s

/-- So many blanks. -/
def blanks (n : Nat) : List Char := List.replicate n ' '

/-- The characters without those that ring the bell or move the cursor. -/
def dropControls (s : List Char) : List Char :=
  s.filter fun c => !([7, 8, 11, 12, 13].contains c.toNat)

/-- The pieces between tabs, the first one starting at the cell `position`, with blanks for the
tabs. -/
def joinTabbed (position : Nat) : List (List Char) → List Char
  | [] => []
  | [last] => last
  | piece :: rest =>
    let stop := position + cells (piece ++ [' '])
    let fill := (8 - stop % 8) % 8
    piece ++ ' ' :: blanks fill ++ joinTabbed (stop + fill) rest

/-- A line with blanks for its tabs. -/
def expandTabs (line : List Char) : List Char := joinTabbed 0 (splitAt '\t' line)

/-- The words of a line with the white space around them: each has the white space after it, and the
first one also that before it.  A line that is all white space has no words. -/
def wordsFrom : Nat → List Char → List (List Char)
  | 0, _ => []
  | fuel + 1, s =>
    let lead := s.takeWhile isBlank
    let body := (s.drop lead.length).takeWhile fun c => !isBlank c
    let after := (s.drop (lead.length + body.length)).takeWhile isBlank
    if body.isEmpty then []
    else
      (lead ++ body ++ after) :: wordsFrom fuel (s.drop (lead.length + body.length + after.length))

/-- The words of a line with the white space around them. -/
def wordsOf (s : List Char) : List (List Char) := wordsFrom s.length s

/-- Cuts a word into pieces that are at most so many cells wide; `piece` is the piece before the
rest of the word, in reverse, and `used` are its cells. -/
def chop (width : Nat) (piece : List Char) (used : Nat) : List Char → List (List Char)
  | [] => [piece.reverse]
  | c :: rest =>
    if width < used + charCells c then piece.reverse :: chop width [c] (charCells c) rest
    else chop width (c :: piece) (used + charCells c) rest

/-- Puts a word where a line is being filled: `done` are the lines before it, the last one first,
`line` is the line, and `used` are the cells that count as taken. -/
def placeWord (width : Nat) (fold : Bool) (word : List Char) :
    List (List Char) × List Char × Nat → List (List Char) × List Char × Nat
  | (done, line, used) =>
    let length := cells (trimRight word)
    let done' := if line.isEmpty then done else line :: done
    if used + length ≤ width then (done, line ++ word, used + cells word)
    else if width < length then
      if fold then
        match (chop width [] 0 word).reverse with
        | [] => (done', [], 0)
        | last :: before => (before ++ done', last, cells last)
      else (done', word, cells word)
    else (done', word, cells word)

/-- Breaks a line so that its parts are at most so many cells wide. -/
def breakLine (width : Nat) (fold : Bool) (line : List Char) : List (List Char) :=
  match wordsOf line with
  | [] => [line]
  | words =>
    let (done, last, _) :=
      words.foldl (fun state word => placeWord width fold word state) ([], [], 0)
    (last :: done).reverse

/-- A line without the white space at its end that is in excess of the width. -/
def dropExcess (width : Nat) (line : List Char) : List Char :=
  if width < line.length then
    let trailing := line.length - (trimRight line).length
    line.take (line.length - min trailing (line.length - width))
  else line

/-- The longest start of a line that takes at most so many cells. -/
def takeCells : Nat → List Char → List Char
  | _, [] => []
  | room, c :: rest =>
    if charCells c ≤ room then c :: takeCells (room - charCells c) rest else []

/-- The start of a line that takes exactly so many cells, with blanks where it is too short. -/
def fitCells (width : Nat) (line : List Char) : List Char :=
  let start := takeCells width line
  start ++ blanks (width - cells start)

/-- A line cut to a width, with an ellipsis for what is missing if `ellipsis` holds. -/
def cutLine (width : Nat) (ellipsis : Bool) (line : List Char) : List Char :=
  if cells line ≤ width then line
  else if ellipsis then fitCells (width - 1) line ++ [Char.ofNat 0x2026]
  else fitCells width line

/-- The lines of a text of which long ones are not broken. -/
def plainLines (s : List Char) : List (List Char) := (splitLines s).map expandTabs

/-- The lines of a text laid out in a width, words that are too long cut over lines. -/
def foldedLines (width : Nat) (s : List Char) : List (List Char) :=
  ((plainLines s).flatMap (breakLine width true)).map
    fun line => cutLine width false (dropExcess width line)

/-- The lines of a text laid out in a column, words that are too long cut off, and long lines cut
off as well if `broken` does not hold. -/
def columnLines (width : Nat) (broken : Bool) (s : List Char) : List (List Char) :=
  ((plainLines s).flatMap fun line => if broken then breakLine width false line else [line]).map
    fun line => fitCells width (cutLine width true (dropExcess width line))

/-- A line in the middle of a width, with blanks at both ends. -/
def centred (width : Nat) (line : List Char) : List Char :=
  let body := cutLine width false (trimRight line)
  let left := blanks ((width - cells body) / 2)
  left ++ body ++ blanks (width - cells (left ++ body))

end CommitPolicy.Console
