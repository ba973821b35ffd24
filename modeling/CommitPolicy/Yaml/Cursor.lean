import CommitPolicy.Text.Integer
import CommitPolicy.Text.Lines
import CommitPolicy.Text.Quoted

/-!
# Places in a text

A cursor is a place in a YAML text: what is left to read, and the line and the column.  A fault says
what is wrong with the text, and where.
-/

namespace CommitPolicy.Yaml

open Text

/-- A place in a text, counted from zero. -/
structure Mark where
  line : Nat
  column : Nat
  deriving DecidableEq, Repr, Inhabited

/-- A place as it is shown, in the file called `name`. -/
def Mark.text (name : String) (m : Mark) : String :=
  "  in \"" ++ name ++ "\", line " ++ toString (m.line + 1) ++ ", column "
    ++ toString (m.column + 1)

/-- What is wrong with a text. -/
inductive Fault where
  /-- A character that cannot be in a text, and its position. -/
  | character (code position : Nat)
  /-- The number of an escaped character that is larger than those of all characters. -/
  | codePoint (n : Nat)
  /-- A number with more digits than are read, and how many there are. -/
  | tooManyDigits (n : Nat)
  /-- What was being read and since where, and what is wrong and where. -/
  | located (context : Option (String × Option Mark)) (problem : String) (mark : Option Mark)
  deriving DecidableEq, Repr

namespace Fault

/-- A fault at a place, without more to say about it. -/
def plain (problem : String) (mark : Mark) : Fault := located none problem (some mark)

/-- A fault at a place in something that started at another place. -/
def inside (context : String) (start : Mark) (problem : String) (mark : Mark) : Fault :=
  located (some (context, some start)) problem (some mark)

/-- A number in at least four hexadecimal digits. -/
def hexCode (n : Nat) : String :=
  String.ofList (hexDigits (if n < 0x10000 then 4 else if n < 0x100000 then 5 else 6) n)

/-- What is wrong with the file called `name`. -/
def text (name : String) : Fault → String
  | character code position =>
    "unacceptable character #x" ++ hexCode code ++ ": special characters are not allowed\n  in \""
      ++ name ++ "\", position " ++ toString position
  | codePoint n => "no character has the number " ++ toString n
  | tooManyDigits n => tooManyDigitsText n
  | located context problem mark =>
    let before := match context with
      | none => []
      | some (what, none) => [what]
      | some (what, some start) => if mark = some start then [what] else [what, start.text name]
    joinWith "\n" (before ++ [problem] ++ (mark.map fun m => m.text name).toList)

end Fault

/-- A place in a text and what is left to read from it. -/
structure Cursor where
  rest : List Char
  index : Nat
  line : Nat
  column : Nat
  deriving Inhabited

/-- The characters that end a line. -/
def isBreak (c : Char) : Bool := [0xA, 0xD, 0x85, 0x2028, 0x2029].contains c.toNat

/-- The character that stands for the end of the text, which no text has in it. -/
def ending : Char := Char.ofNat 0

/-- The end of a line or of the text. -/
def endsLine (c : Char) : Bool := c == ending || isBreak c

/-- A blank or the end of a line. -/
def isSpaceOrEnd (c : Char) : Bool := c == ' ' || endsLine c

/-- A blank, a tab or the end of a line. -/
def isGap (c : Char) : Bool := c == '\t' || isSpaceOrEnd c

/-- The characters of names. -/
def isNameChar (c : Char) : Bool := isAsciiLetter c || isAsciiDigit c || c == '-' || c == '_'

namespace Cursor

/-- The start of a text. -/
def start (s : List Char) : Cursor := ⟨s, 0, 0, 0⟩

/-- The place of a cursor. -/
def mark (c : Cursor) : Mark := ⟨c.line, c.column⟩

/-- The character at the cursor. -/
def peek (c : Cursor) : Char := c.rest.headD ending

/-- The character `n` places behind the cursor. -/
def peekAt (c : Cursor) (n : Nat) : Char := (c.rest.drop n).headD ending

/-- Moves over a character; a byte order mark takes no column. -/
def next (c : Cursor) : Cursor :=
  match c.rest with
  | [] => c
  | x :: rest =>
    if isBreak x && !(x == '\r' && rest.head? == some '\n') then ⟨rest, c.index + 1, c.line + 1, 0⟩
    else ⟨rest, c.index + 1, c.line, if x.toNat = 0xFEFF then c.column else c.column + 1⟩

/-- Moves over so many characters. -/
def skip : Nat → Cursor → Cursor
  | 0, c => c
  | n + 1, c => skip n c.next

/-- The characters up to the first one that does not satisfy `p`, and the cursor there. -/
def span (p : Char → Bool) (c : Cursor) : List Char × Cursor :=
  let taken := c.rest.takeWhile p
  (taken, c.skip taken.length)

/-- Moves to the first character that does not satisfy `p`. -/
def skipWhile (p : Char → Bool) (c : Cursor) : Cursor := (c.span p).2

/-- The line break at the cursor as it counts in a value, if there is one, and the cursor after
it. -/
def lineBreak? (c : Cursor) : Option (Char × Cursor) :=
  match c.rest with
  | '\r' :: '\n' :: _ => some ('\n', c.skip 2)
  | x :: _ =>
    if x == '\r' || x == '\n' || x.toNat == 0x85 then some ('\n', c.next)
    else if isBreak x then some (x, c.next)
    else none
  | [] => none

/-- The line break at the cursor as text, and the cursor after it. -/
def takeBreak (c : Cursor) : List Char × Cursor :=
  match c.lineBreak? with
  | some (b, c) => ([b], c)
  | none => ([], c)

/-- Moves over blanks and a comment after them. -/
def skipComment (c : Cursor) : Cursor :=
  let c := c.skipWhile (· == ' ')
  if c.peek == '#' then c.skipWhile fun x => !endsLine x else c

/-- Whether three marks of a document, such as `---`, stand at the cursor. -/
def atDocumentMark (c : Cursor) : Bool :=
  (['-', '-', '-'].isPrefixOf c.rest || ['.', '.', '.'].isPrefixOf c.rest) && isGap (c.peekAt 3)

end Cursor

/-- A character as it is named in a fault. -/
def named (c : Char) : String := quoted c.toString

/-- The characters that a text can hold. -/
def isAllowed (c : Char) : Bool :=
  let n := c.toNat
  n = 9 || n = 0xA || n = 0xD || (0x20 ≤ n && n ≤ 0x7E) || n = 0x85
    || (0xA0 ≤ n && n ≤ 0xFFFD) || 0x10000 ≤ n

/-- The first character of a text that a text cannot hold, if there is one. -/
def characterFault? (s : List Char) : Option Fault :=
  let good := s.takeWhile isAllowed
  (s.drop good.length).head?.map fun c => .character c.toNat good.length

end CommitPolicy.Yaml
