import CommitPolicy.Yaml.Token

/-!
# Reading scalars

Scalars are written plain, in quotes or as a block.  Line breaks inside a plain or quoted scalar are
folded: a single one becomes a blank, and of several ones the first is dropped.
-/

namespace CommitPolicy.Yaml

open Text

/-- What a line break and those after it become when they are folded. -/
def foldBreaks (first : List Char) (more : List Char) : List Char :=
  (if first != ['\n'] then first else if more.isEmpty then [' '] else []) ++ more

/-! ### Quoted scalars -/

/-- What is scanned when a quoted scalar is read. -/
def quotedContext : String := "while scanning a quoted scalar"

/-- What is scanned when a scalar in double quotes is read. -/
def doubleContext : String := "while scanning a double-quoted scalar"

/-- The characters that a backslash can be followed by, with what they stand for. -/
def escapes : List (Char × Nat) :=
  [('0', 0), ('a', 7), ('b', 8), ('t', 9), ('\t', 9), ('n', 10), ('v', 11), ('f', 12), ('r', 13),
    ('e', 27), (' ', 32), ('"', 34), ('\\', 92), ('/', 47), ('N', 0x85), ('_', 0xA0), ('L', 0x2028),
    ('P', 0x2029)]

/-- The characters that start the number of a character, with how many digits follow. -/
def escapeLengths : List (Char × Nat) := [('x', 2), ('u', 4), ('U', 8)]

/-- The line breaks at a cursor with the white space around them, at most `fuel` of them, inside a
quoted scalar that starts at `start`. -/
def quotedBreaks (start : Mark) : Nat → Cursor → Except Fault (List Char × Cursor)
  | 0, c => .ok ([], c)
  | fuel + 1, c =>
    if c.atDocumentMark then
      .error (.inside quotedContext start "found unexpected document separator" c.mark)
    else
      let c := c.skipWhile fun x => x == ' ' || x == '\t'
      match c.lineBreak? with
      | some (b, c) => do
        let (more, c) ← quotedBreaks start fuel c
        .ok (b :: more, c)
      | none => .ok ([], c)

/-- The white space at a cursor inside a quoted scalar, with line breaks folded. -/
def quotedSpaces (start : Mark) (c : Cursor) : Except Fault (List Char × Cursor) :=
  let (blanks, c) := c.span fun x => x == ' ' || x == '\t'
  if c.peek == ending then
    .error (.inside quotedContext start "found unexpected end of stream" c.mark)
  else
    match c.lineBreak? with
    | some (b, c) => do
      let (more, c) ← quotedBreaks start (c.rest.length + 1) c
      .ok (foldBreaks [b] more, c)
    | none => .ok (blanks, c)

/-- The character with a number; a replacement character stands for a surrogate. -/
def codePointChar (n : Nat) : Except Fault Char :=
  if 0xD800 ≤ n && n ≤ 0xDFFF then .ok (Char.ofNat 0xFFFD)
  else if n ≤ 0x10FFFF then .ok (Char.ofNat n)
  else .error (.codePoint n)

/-- What a backslash and what follows it stand for, the cursor being after the backslash. -/
def readEscape (start : Mark) (c : Cursor) : Except Fault (List Char × Cursor) :=
  let x := c.peek
  match escapes.lookup x, escapeLengths.lookup x with
  | some n, _ => .ok ([Char.ofNat n], c.next)
  | none, some length =>
    let c := c.next
    let digits := (c.rest.take length).takeWhile isHexDigit
    if digits.length = length then
      (codePointChar (hexValue digits)).map fun x => ([x], c.skip length)
    else
      .error (.inside doubleContext start
        ("expected escape sequence of " ++ toString length ++ " hexadecimal numbers, but found "
          ++ named (c.peekAt digits.length)) c.mark)
  | none, none =>
    match c.lineBreak? with
    | some (_, c) => quotedBreaks start (c.rest.length + 1) c
    | none => .error (.inside doubleContext start ("found unknown escape character " ++ named x) c.mark)

/-- Reads a scalar in quotes up to the closing quote, the cursor being after what was read so far;
`double` tells the kind of the quotes. -/
def quotedBody (double : Bool) (start : Mark) : Nat → Cursor → Except Fault (List Char × Cursor)
  | 0, c => .ok ([], c)
  | fuel + 1, c => do
    let x := c.peek
    if !double && x == '\'' && c.peekAt 1 == '\'' then
      let (more, c) ← quotedBody double start fuel (c.skip 2)
      .ok ('\'' :: more, c)
    else if x == (if double then '"' else '\'') then .ok ([], c.next)
    else if double && x == '\\' then
      let (text, c) ← readEscape start c.next
      let (more, c) ← quotedBody double start fuel c
      .ok (text ++ more, c)
    else if isGap x then
      let (text, c) ← quotedSpaces start c
      let (more, c) ← quotedBody double start fuel c
      .ok (text ++ more, c)
    else
      let (more, c) ← quotedBody double start fuel c.next
      .ok (x :: more, c)

/-- Reads a scalar in quotes. -/
def readQuoted (double : Bool) (c : Cursor) : Except Fault (Token × Cursor) := do
  let start := c.mark
  let (text, c) ← quotedBody double start (c.rest.length + 1) c.next
  .ok (⟨.scalar (String.ofList text) (if double then .doubleQuoted else .singleQuoted), start,
    c.mark⟩, c)

/-! ### Plain scalars -/

/-- Whether the plain scalar stops at a character, `following` being the one after it. -/
def stopsPlain (flow : Bool) (x following : Char) : Bool :=
  isGap x
    || (x == ':' && (isGap following || (flow && [',', '[', ']', '\x7b', '\x7d'].contains following)))
    || (flow && [',', '?', '[', ']', '\x7b', '\x7d'].contains x)

/-- The longest start of a text at which no plain scalar stops. -/
def plainWord (flow : Bool) : List Char → List Char
  | [] => []
  | x :: rest => if stopsPlain flow x (rest.headD ending) then [] else x :: plainWord flow rest

/-- The line breaks at a cursor with blanks around them; nothing is given if a document mark
follows one. -/
def plainBreaks : Nat → Cursor → Option (List Char) × Cursor
  | 0, c => (some [], c)
  | fuel + 1, c =>
    if c.atDocumentMark then (none, c)
    else
      let c := c.skipWhile (· == ' ')
      match c.lineBreak? with
      | some (b, c) =>
        let (more, c) := plainBreaks fuel c
        (more.map (b :: ·), c)
      | none => (some [], c)

/-- The white space at a cursor inside a plain scalar, with line breaks folded, whether there was a
line break, and the cursor after it.  There is none if the scalar ends here. -/
def plainSpaces (c : Cursor) : List Char × Bool × Cursor :=
  let (blanks, c) := c.span (· == ' ')
  match c.lineBreak? with
  | some (b, c) =>
    match plainBreaks (c.rest.length + 1) c with
    | (some more, c) => (foldBreaks [b] more, true, c)
    | (none, c) => ([], true, c)
  | none => (blanks, false, c)

/-- A plain scalar as far as it has been read. -/
structure PlainScan where
  text : List Char
  stop : Mark
  cursor : Cursor
  /-- Whether the last thing read was a line break. -/
  broken : Bool

/-- Reads the words of a plain scalar; `spaces` is the white space before the next word, and the
scalar goes on only in lines indented by at least `indent`. -/
def plainWords (flow : Bool) (indent : Int) (scan : PlainScan) (spaces : List Char) :
    Nat → PlainScan
  | 0 => scan
  | fuel + 1 =>
    let c := scan.cursor
    let word := if c.peek == '#' then [] else plainWord flow c.rest
    if word.isEmpty then scan
    else
      let c := c.skip word.length
      let (spaces', broken, after) := plainSpaces c
      let scan := ⟨scan.text ++ spaces ++ word, c.mark, after, broken⟩
      if spaces'.isEmpty || after.peek == '#' || (!flow && (after.column : Int) < indent) then scan
      else plainWords flow indent scan spaces' fuel

/-- Reads a plain scalar, and tells whether it ends with a line break. -/
def readPlain (flow : Bool) (indent : Int) (c : Cursor) : Token × Cursor × Bool :=
  let scan := plainWords flow (indent + 1) ⟨[], c.mark, c, false⟩ [] (c.rest.length + 1)
  (⟨.scalar (String.ofList scan.text) .plain, c.mark, scan.stop⟩, scan.cursor, scan.broken)

/-! ### Block scalars -/

/-- What is scanned when a block scalar is read. -/
def blockContext : String := "while scanning a block scalar"

/-- How the line breaks at the end of a block scalar are treated: dropped, kept, or reduced to
one. -/
inductive Chomping where
  | strip
  | keep
  | clip
  deriving DecidableEq, Repr

/-- The indentation that a digit asks for. -/
def readIncrement (start : Mark) (c : Cursor) : Except Fault (Option Nat × Cursor) :=
  if isAsciiDigit c.peek then
    if c.peek == '0' then
      .error (.inside blockContext start
        "expected indentation indicator in the range 1-9, but found 0" c.mark)
    else .ok (some (c.peek.toNat - 48), c.next)
  else .ok (none, c)

/-- The sign for the line breaks at the end. -/
def readChomping (c : Cursor) : Chomping × Cursor :=
  if c.peek == '+' then (.keep, c.next) else if c.peek == '-' then (.strip, c.next) else (.clip, c)

/-- The header of a block scalar after the style: the sign and the digit in either order. -/
def readBlockHeader (start : Mark) (c : Cursor) :
    Except Fault (Chomping × Option Nat × Cursor) := do
  let (chomping, c) := readChomping c
  let (increment, c) ← readIncrement start c
  let (chomping, c) :=
    if chomping == .clip && increment.isSome then readChomping c else (chomping, c)
  if !isSpaceOrEnd c.peek then
    .error (.inside blockContext start
      ("expected chomping or indentation indicators, but found " ++ named c.peek) c.mark)
  else
    let c := c.skipComment
    if !endsLine c.peek then
      .error (.inside blockContext start
        ("expected a comment or a line break, but found " ++ named c.peek) c.mark)
    else .ok (chomping, increment, c.takeBreak.2)

/-- The empty lines before the first line of a block scalar, the largest column in them, the place
after them, and the cursor at the first character of the first line. -/
def blockLead (breaks : List Char) (deepest : Nat) (stop : Mark) :
    Nat → Cursor → List Char × Nat × Mark × Cursor
  | 0, c => (breaks, deepest, stop, c)
  | fuel + 1, c =>
    let c := c.skipWhile (· == ' ')
    let deepest := max deepest c.column
    match c.lineBreak? with
    | some (b, c) => blockLead (breaks ++ [b]) deepest c.mark fuel c
    | none => (breaks, deepest, stop, c)

/-- Moves over blanks up to a column. -/
def toColumn (indent : Nat) (c : Cursor) : Cursor :=
  c.skip ((c.rest.takeWhile (· == ' ')).take (indent - c.column)).length

/-- The empty lines at a cursor inside a block scalar, and the place after them. -/
def blockBreaks (indent : Nat) (breaks : List Char) (stop : Mark) :
    Nat → Cursor → List Char × Mark × Cursor
  | 0, c => (breaks, stop, c)
  | fuel + 1, c =>
    let c := toColumn indent c
    match c.lineBreak? with
    | some (b, c) => blockBreaks indent (breaks ++ [b]) c.mark fuel c
    | none => (breaks, stop, c)

/-- Whether a line of a block scalar starts with white space. -/
def startsBlank (c : Cursor) : Bool := c.peek == ' ' || c.peek == '\t'

/-- Reads the lines of a block scalar; `breaks` are the empty lines before the next one.  Gives the
text, the last line break, the empty lines after it, and the place and the cursor there. -/
def blockLines (folded : Bool) (indent : Nat) (breaks : List Char) (stop : Mark) :
    Nat → Cursor → List Char × List Char × List Char × Mark × Cursor
  | 0, c => ([], [], breaks, stop, c)
  | fuel + 1, c =>
    if c.column != indent || c.peek == ending then ([], [], breaks, stop, c)
    else
      let (line, after) := c.span fun x => !endsLine x
      let (lineBreak, after) := after.takeBreak
      let (breaks', stop', next) :=
        blockBreaks indent [] after.mark (after.rest.length + 1) after
      if next.column = indent && next.peek != ending then
        let folds := folded && lineBreak == ['\n'] && !startsBlank c && !startsBlank next
        let glue := if folds then (if breaks'.isEmpty then [' '] else []) else lineBreak
        let (text, rest) := blockLines folded indent breaks' stop' fuel next
        (breaks ++ line ++ glue ++ text, rest)
      else (breaks ++ line, lineBreak, breaks', stop', next)

/-- Reads a block scalar in a block indented by `indent`. -/
def readBlockScalar (folded : Bool) (indent : Int) (c : Cursor) : Except Fault (Token × Cursor) := do
  let start := c.mark
  let (chomping, increment, c) ← readBlockHeader start c.next
  let least := (max (indent + 1) 1).toNat
  let (breaks, column, stop, c) := match increment with
    | some n =>
      let column := least + n - 1
      let (breaks, stop, c) := blockBreaks column [] c.mark (c.rest.length + 1) c
      (breaks, column, stop, c)
    | none =>
      let (breaks, deepest, stop, c) := blockLead [] 0 c.mark (c.rest.length + 1) c
      (breaks, max least deepest, stop, c)
  let (text, lineBreak, tail, stop, c) := blockLines folded column breaks stop (c.rest.length + 1) c
  let ended := match chomping with
    | .strip => text
    | .clip => text ++ lineBreak
    | .keep => text ++ lineBreak ++ tail
  .ok (⟨.scalar (String.ofList ended) .block, start, stop⟩, c)

end CommitPolicy.Yaml
