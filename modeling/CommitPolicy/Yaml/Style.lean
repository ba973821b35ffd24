import CommitPolicy.Yaml.Resolve
import CommitPolicy.Yaml.Scalar

/-!
# Styles of scalars

A text is written plain if that can be read as nothing but this text, else in single quotes if no
character of it needs an escape, and else in double quotes.  What is written is ASCII, and a line is
broken at a blank once it is longer than `lineWidth`.
-/

namespace CommitPolicy.Yaml

open Text

/-- The ways to write a text. -/
inductive Style where
  | plain
  | single
  | double
  deriving DecidableEq, Repr

/-- The number of columns after which a line is broken at the next blank. -/
def lineWidth : Nat := 80

/-! ### Choosing a style -/

/-- A line feed or an ASCII character that shows. -/
def isSimple (c : Char) : Bool := c == '\n' || (' ' ≤ c && c ≤ '~')

/-- Whether a line feed has a blank beside it. -/
def hasBlankAtBreak : List Char → Bool
  | a :: b :: rest =>
    (a == ' ' && b == '\n') || (a == '\n' && b == ' ') || hasBlankAtBreak (b :: rest)
  | _ => false

/-- Whether a text needs no escape between single quotes. -/
def needsNoEscape (s : List Char) : Bool := s.all isSimple && !hasBlankAtBreak s

/-- Whether a blank or the end of the text is next. -/
def endsWord (s : List Char) : Bool := s.head?.all (· == ' ')

/-- Whether a text has a number sign after a blank or a colon before a blank; `afterBlank` tells
whether a blank is before it. -/
def hasMark : (afterBlank : Bool) → List Char → Bool
  | _, [] => false
  | afterBlank, c :: rest =>
    (c == '#' && afterBlank) || (c == ':' && endsWord rest) || hasMark (c == ' ') rest

/-- The characters that no plain scalar starts with. -/
def indicators : List Char := "#,[]\x7b\x7d&*!|>'\"%@`".toList

/-- Whether a text starts like something other than a plain scalar. -/
def startsMarked (s : List Char) : Bool :=
  "---".toList.isPrefixOf s || "...".toList.isPrefixOf s
    || match s with
      | c :: rest => indicators.contains c || ((c == '-' || c == '?') && endsWord rest)
      | [] => false

/-- Whether a text can be written as it is. -/
def canBePlain (s : List Char) : Bool :=
  needsNoEscape s && !s.contains '\n' && s.head? != some ' ' && s.getLast? != some ' '
    && !startsMarked s && !hasMark true s && plainTag (String.ofList s) == standardTag "str"

/-- The style that a text is written in. -/
def Style.of (s : List Char) : Style :=
  if canBePlain s then plain else if needsNoEscape s then single else double

/-! ### Writing in a style -/

/-- The blanks before the text of a line. -/
def margin (indent : Nat) : List Char := List.replicate indent ' '

/-- Whether a blank stands alone between two other characters, the one before it being `before`. -/
def isLoneBlank (before : Option Char) (rest : List Char) : Bool :=
  before.any (· != ' ') && rest.head?.any (· != ' ')

/-- Writes a text from a column on, broken over lines that start at the column `indent`.  A lone
blank is written as a line break when the line is long, and line feeds as one line break more than
there are; a single quote is written twice if `doubled` holds. -/
def writeFolded (doubled : Bool) (indent : Nat) :
    (column : Nat) → (before : Option Char) → List Char → List Char
  | _, _, [] => []
  | column, before, c :: rest =>
    if c = ' ' && lineWidth < column && isLoneBlank before rest then
      '\n' :: margin indent ++ writeFolded doubled indent indent (some c) rest
    else if c = '\n' then
      (if before = some '\n' then ['\n'] else ['\n', '\n'])
        ++ (if rest.head? = some '\n' then [] else margin indent)
        ++ writeFolded doubled indent indent (some c) rest
    else if doubled && c = '\'' then
      '\'' :: '\'' :: writeFolded doubled indent (column + 2) (some c) rest
    else c :: writeFolded doubled indent (column + 1) (some c) rest

/-- Whether a character is written as an escape between double quotes. -/
def needsEscape (c : Char) : Bool := c == '"' || c == '\\' || c < ' ' || '~' < c

/-- A hexadecimal number in capitals. -/
def capitalHex (width n : Nat) : List Char := (hexDigits width n).map Char.toUpper

/-- The escape of a character: with a letter if there is one for it, else with its number. -/
def escapeOf (c : Char) : List Char :=
  match escapes.find? fun e => e.2 == c.toNat with
  | some (letter, _) => ['\\', letter]
  | none =>
    if c.toNat < 0x100 then '\\' :: 'x' :: capitalHex 2 c.toNat
    else if c.toNat < 0x10000 then '\\' :: 'u' :: capitalHex 4 c.toNat
    else '\\' :: 'U' :: capitalHex 8 c.toNat

/-- A line break that stands for nothing, with a backslash before it and another one after it if the
next character is a blank. -/
def escapedBreak (indent : Nat) (next : Option Char) : List Char :=
  '\\' :: '\n' :: margin indent ++ (if next = some ' ' then ['\\'] else [])

/-- Writes a text from a column on with escapes, broken over lines that start at the column
`indent`.  A long line is broken before a blank, and before or after an escape; `inside` tells
whether there is text before, and `escaped` whether an escape is the last thing before. -/
def writeEscaped (indent : Nat) :
    (column : Nat) → (inside escaped : Bool) → List Char → List Char
  | _, _, _, [] => []
  | column, inside, escaped, c :: rest =>
    let breakable := inside && !rest.isEmpty
    if needsEscape c then
      let text := escapeOf c
      let column := column + text.length
      if breakable && lineWidth + 1 < column then
        let gap := escapedBreak indent rest.head?
        text ++ gap ++ writeEscaped indent (gap.length - 2) true true rest
      else text ++ writeEscaped indent column true true rest
    else if breakable && (c = ' ' || escaped) && lineWidth < column then
      let gap := escapedBreak indent (some c)
      gap ++ c :: writeEscaped indent (gap.length - 1) true false rest
    else c :: writeEscaped indent (column + 1) true false rest

/-- Writes a text in a style after a blank at the given column. -/
def Style.write (indent column : Nat) (s : List Char) : Style → List Char
  | plain => writeFolded false indent column none s
  | single => '\'' :: writeFolded true indent (column + 1) none s ++ ['\'']
  | double => '"' :: writeEscaped indent (column + 1) false true s ++ ['"']

/-- Writes a text in the style that it needs. -/
def writeText (indent column : Nat) (s : List Char) : List Char :=
  (Style.of s).write indent column s

end CommitPolicy.Yaml
