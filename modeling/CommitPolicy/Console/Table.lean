import CommitPolicy.Console.Wrap
import CommitPolicy.Text.Whole

/-!
# Tables

A table has a title, a row of headers and rows of cells, drawn with lines between the columns.  A
column is as wide as its widest cell; if the table would be too wide, the widest columns whose cells
can be broken over lines are made narrower first.
-/

namespace CommitPolicy.Console

open Text

/-- A column of a table. -/
structure Column where
  header : String
  /-- Whether its cells can be broken over lines. -/
  breakable : Bool

/-- A table. -/
structure Table where
  title : List Char
  columns : List Column
  rows : List (List (List Char))

/-- The characters that end a line where a text is measured. -/
def endsLine (c : Char) : Bool :=
  [0xA, 0xB, 0xC, 0xD, 0x1C, 0x1D, 0x1E, 0x85, 0x2028, 0x2029].contains c.toNat

/-- The cells of the widest line of a text, `current` being the line read so far, in reverse. -/
def textWidthFrom (current : List Char) : List Char → Nat
  | [] => cells current.reverse
  | c :: rest =>
    if endsLine c then max (cells current.reverse) (textWidthFrom [] rest)
    else textWidthFrom (c :: current) rest

/-- The cells of the widest line of a text. -/
def textWidth (s : List Char) : Nat := textWidthFrom [] s

/-- The largest of numbers, zero if there are none. -/
def largest (ns : List Nat) : Nat := ns.foldl max 0

/-- The numbers added up. -/
def total (ns : List Nat) : Nat := ns.foldl (· + ·) 0

/-- Takes `excess` off the values in proportion to their shares, from no value more than `most`. -/
def reduceShares (most : Nat) : Nat → Nat → List (Nat × Nat) → List Nat
  | _, _, [] => []
  | excess, shares, (share, value) :: rest =>
    if share = 0 || most = 0 || shares = 0 then value :: reduceShares most excess shares rest
    else
      let part := min most (roundDiv (share * excess) shares)
      (value - part) :: reduceShares most (excess - part) (shares - share) rest

/-- Makes the widest columns narrower until the widths add up to `room`, or until only columns of
one width and columns that cannot be broken are left; at most `fuel` rounds are made. -/
def collapse (room : Nat) : Nat → List (Nat × Bool) → List (Nat × Bool)
  | 0, columns => columns
  | fuel + 1, columns =>
    let width := total (columns.map (·.1))
    let breakable := (columns.filter (·.2)).map (·.1)
    let widest := largest breakable
    let second := largest (breakable.filter (· != widest))
    if width ≤ room || widest = second then columns
    else
      let marked := columns.map fun (w, b) => ((if b && w == widest then 1 else 0), w)
      let widths := reduceShares (min (width - room) (widest - second)) (width - room)
        (total (marked.map (·.1))) marked
      collapse room fuel (widths.zip (columns.map (·.2)))

/-- Takes `excess` off the values in equal parts, `columns` of them being positive. -/
def reduceEqually (excess columns : Nat) : List Nat → List Nat
  | [] => []
  | w :: rest =>
    if w = 0 then w :: reduceEqually excess columns rest
    else
      let part := min w (roundDiv excess columns)
      (w - part) :: reduceEqually (excess - part) (columns - 1) rest

/-- Makes columns narrower in equal parts until the widths add up to `room`. -/
def squeeze (room : Nat) (widths : List Nat) : List Nat :=
  let excess := total widths - room
  if excess = 0 then widths
  else reduceEqually excess (widths.filter (· != 0)).length widths

namespace Table

/-- The cells of a column from the header on. -/
def columnCells (t : Table) (i : Nat) (c : Column) : List (List Char) :=
  c.header.toList :: t.rows.map fun row => (row[i]?).getD []

/-- The widths that the columns need, with a blank at each side of a cell. -/
def naturalWidths (t : Table) : List Nat :=
  t.columns.mapIdx fun i c => largest ((t.columnCells i c).map textWidth) + 2

/-- The widths of the columns in a table of at most `width` cells. -/
def columnWidths (t : Table) (width : Nat) : List Nat :=
  let room := width - (t.columns.length + 1)
  let natural := t.naturalWidths.map (min room)
  if total natural ≤ room then natural
  else
    let collapsed := collapse room (total natural + 1) (natural.zip (t.columns.map (·.breakable)))
    (natural.zip (squeeze room (collapsed.map (·.1)))).map fun (n, w) => min n w

/-- A border line: its ends, its line character, and the character between two columns. -/
def border (left line between right : Char) (widths : List Nat) : List Char :=
  left :: ((widths.map fun w => List.replicate w line).intersperse [between]).flatten ++ [right]

/-- The lines of a row, drawn with the given characters at the ends and between the columns. -/
def drawRow (edge between : Char) (columns : List Column) (widths : List Nat)
    (row : List (List Char)) : List (List Char) :=
  let laid := (columns.zip (widths.zip row)).map fun (c, w, s) => columnLines (w - 2) c.breakable s
  let height := largest (laid.map List.length)
  (List.range height).map fun i =>
    let parts := (widths.zip laid).map fun (w, lines) =>
      ' ' :: (lines[i]?).getD (blanks (w - 2)) ++ [' ']
    edge :: (parts.intersperse [between]).flatten ++ [edge]

/-- The lines of a table of at most `width` cells. -/
def draw (t : Table) (width : Nat) : List (List Char) :=
  let widths := t.columnWidths width
  let whole := total widths + t.columns.length + 1
  let title := ((plainLines t.title).flatMap (breakLine whole true)).map
    fun line => centred whole (dropExcess whole line)
  title
    ++ [border '┏' '━' '┳' '┓' widths]
    ++ drawRow '┃' '┃' t.columns widths (t.columns.map fun c => c.header.toList)
    ++ [border '┡' '━' '╇' '┩' widths]
    ++ t.rows.flatMap (drawRow '│' '│' t.columns widths)
    ++ [border '└' '─' '┴' '┘' widths]

end Table

end CommitPolicy.Console
