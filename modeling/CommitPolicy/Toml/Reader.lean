import CommitPolicy.Config.Value
import CommitPolicy.Failure
import CommitPolicy.Text.Decimal
import CommitPolicy.Text.Quoted
import CommitPolicy.Yaml.Moment

/-!
# Reading TOML

Readers for the keys, the texts, the numbers and the times of TOML.  A fault is told by the number
of characters that are left to read where it shows, which gives the line and the column.
-/

namespace CommitPolicy.Toml

open Text

/-- What is wrong with a document. -/
inductive Fault where
  /-- What is wrong, and how many characters are left from there. -/
  | at (problem : String) (left : Nat)
  /-- A decimal numeral with too many digits. -/
  | tooManyDigits (n : Nat)
  deriving DecidableEq, Repr

/-- A fault at the start of what is left to read. -/
def Fault.here (problem : String) (rest : List Char) : Fault := .at problem rest.length

/-- The place in a text where so many characters are left. -/
def place (src : List Char) (left : Nat) : String :=
  if left = 0 then "end of document"
  else
    let before := src.take (src.length - left)
    "line " ++ toString (before.count '\n' + 1) ++ ", column "
      ++ toString ((before.reverse.takeWhile (· != '\n')).length + 1)

/-- The failure of a fault in the text of the file called `path`. -/
def Fault.failure (path : String) (src : List Char) : Fault → Failure
  | .at problem left =>
    .config (.malformedToml path (problem ++ " (at " ++ place src left ++ ")"))
  | tooManyDigits n => .argument (tooManyDigitsText n)

/-- A control character other than tab. -/
def isControl (c : Char) : Bool := (c.toNat < 32 && c != '\t') || c.toNat = 127

/-- A blank or a tab. -/
def isGap (c : Char) : Bool := c == ' ' || c == '\t'

/-- Drops blanks and tabs. -/
def skipGaps (s : List Char) : List Char := s.dropWhile isGap

/-- Drops a comment up to the end of the line. -/
def skipComment (s : List Char) : Except Fault (List Char) :=
  match s with
  | '#' :: body =>
    let line := body.takeWhile (· != '\n')
    let good := line.takeWhile fun c => !isControl c
    match line.drop good.length with
    | [] => .ok (body.drop line.length)
    | c :: _ =>
      .error (.here ("Found invalid character " ++ quoted c.toString) (body.drop good.length))
  | s => .ok s

/-- Drops blanks, line feeds and comments; at most `fuel` comments. -/
def skipLines (s : List Char) : Nat → Except Fault (List Char)
  | 0 => .ok s
  | fuel + 1 => do
    let after ← skipComment (s.dropWhile fun c => isGap c || c == '\n')
    if after.length = s.length then .ok s else skipLines after fuel

/-- Drops blanks, line feeds and comments. -/
def skipSpace (s : List Char) : Except Fault (List Char) := skipLines s (s.length + 1)

/-! ### Texts -/

/-- The characters that a backslash can be followed by, with what they stand for. -/
def escapes : List (Char × Nat) :=
  [('b', 8), ('t', 9), ('n', 10), ('f', 12), ('r', 13), ('e', 27), ('"', 34), ('\\', 92)]

/-- The characters that start the number of a character, with how many digits follow. -/
def escapeLengths : List (Char × Nat) := [('x', 2), ('u', 4), ('U', 8)]

/-- Reads the number of a character. -/
def readCodePoint (length : Nat) (s : List Char) : Except Fault (List Char × List Char) :=
  let digits := s.take length
  let rest := s.drop length
  if digits.length < length || !digits.all isHexDigit then .error (.here "Invalid hex value" s)
  else
    let n := hexValue digits
    if (0xD800 ≤ n && n ≤ 0xDFFF) || 0x10FFFF < n then
      .error (.here "Escaped character is not a Unicode scalar value" rest)
    else .ok ([Char.ofNat n], rest)

/-- Reads what follows a backslash. -/
def readEscape (multiline : Bool) (s : List Char) : Except Fault (List Char × List Char) :=
  let bad (rest : List Char) : Except Fault (List Char × List Char) :=
    .error (.here "Unescaped '\\' in a string" rest)
  match s with
  | [] => bad []
  | c :: rest =>
    if multiline && (isGap c || c == '\n') then
      let isSpace := fun c => isGap c || c == '\n'
      if c == '\n' then .ok ([], rest.dropWhile isSpace)
      else
        match skipGaps rest with
        | [] => .ok ([], [])
        | '\n' :: rest => .ok ([], rest.dropWhile isSpace)
        | rest => bad rest
    else
      match escapes.lookup c, escapeLengths.lookup c with
      | some n, _ => .ok ([Char.ofNat n], rest)
      | none, some length => readCodePoint length rest
      | none, none => bad rest

/-- Reads a text in double quotes up to the closing quotes; `fuel` is the number of characters. -/
def readBasic (multiline : Bool) : Nat → List Char → Except Fault (List Char × List Char)
  | 0, s => .error (.here "Unterminated string" s)
  | fuel + 1, s => do
    match s with
    | [] => .error (.here "Unterminated string" s)
    | '"' :: rest =>
      if !multiline then .ok ([], rest)
      else if ['"', '"'].isPrefixOf rest then .ok ([], rest.drop 2)
      else
        let (text, after) ← readBasic multiline fuel rest
        .ok ('"' :: text, after)
    | '\\' :: rest =>
      let (c, rest) ← readEscape multiline rest
      let (text, after) ← readBasic multiline fuel rest
      .ok (c ++ text, after)
    | c :: rest =>
      if isControl c && !(multiline && c == '\n') then
        .error (.here ("Illegal character " ++ quoted c.toString) s)
      else
        let (text, after) ← readBasic multiline fuel rest
        .ok (c :: text, after)

/-- The text up to the first occurrence of `stop`, if there is one. -/
def upTo? (stop : List Char) : List Char → Option (List Char)
  | [] => if stop.isEmpty then some [] else none
  | c :: rest => if stop.isPrefixOf (c :: rest) then some [] else (upTo? stop rest).map (c :: ·)

/-- Reads a text in which nothing is escaped, up to the closing quotes. -/
def readLiteral (stop : String) (s : List Char) : Except Fault (List Char × List Char) :=
  match upTo? stop.toList s with
  | none => .error (.at ("Expected " ++ quoted stop) 0)
  | some text =>
    let good := text.takeWhile fun c => !isControl c || (stop.length = 3 && c == '\n')
    match text.drop good.length with
    | [] => .ok (text, s.drop (text.length + stop.length))
    | c :: _ =>
      .error (.here ("Found invalid character " ++ quoted c.toString) (s.drop good.length))

/-- Up to two quotes before the closing ones belong to the text. -/
def closingQuotes (q : Char) (text rest : List Char) : List Char × List Char :=
  let extra := (rest.take 2).takeWhile (· == q)
  (text ++ extra, rest.drop extra.length)

/-- Drops a line feed at the start of a text of several lines. -/
def dropFirstBreak : List Char → List Char
  | '\n' :: rest => rest
  | s => s

/-- Reads a text in quotes of either kind, in one line or in several. -/
def readText (s : List Char) : Except Fault (List Char × List Char) := do
  match s with
  | '"' :: '"' :: '"' :: rest =>
    let (text, after) ← readBasic true (rest.length + 1) (dropFirstBreak rest)
    .ok (closingQuotes '"' text after)
  | '\'' :: '\'' :: '\'' :: rest =>
    let (text, after) ← readLiteral "'''" (dropFirstBreak rest)
    .ok (closingQuotes '\'' text after)
  | '"' :: rest => readBasic false (rest.length + 1) rest
  | '\'' :: rest => readLiteral "'" rest
  | s => .error (.here "Invalid value" s)

/-! ### Keys -/

/-- A character of a key without quotes. -/
def isKeyChar (c : Char) : Bool := isAsciiLetter c || isAsciiDigit c || c == '-' || c == '_'

/-- Reads a part of a key. -/
def readKeyPart (s : List Char) : Except Fault (String × List Char) :=
  match s with
  | '"' :: rest => (readBasic false (rest.length + 1) rest).map fun (t, r) => (String.ofList t, r)
  | '\'' :: rest => (readLiteral "'" rest).map fun (t, r) => (String.ofList t, r)
  | s =>
    let name := s.takeWhile isKeyChar
    if name.isEmpty then .error (.here "Invalid initial character for a key part" s)
    else .ok (String.ofList name, s.drop name.length)

/-- Reads a key of at most `fuel` parts with points between them. -/
def readKey (s : List Char) : Nat → Except Fault (List String × List Char)
  | 0 => .ok ([], s)
  | fuel + 1 => do
    let (part, rest) ← readKeyPart s
    match skipGaps rest with
    | '.' :: rest =>
      let (parts, rest) ← readKey (skipGaps rest) fuel
      .ok (part :: parts, rest)
    | rest => .ok ([part], rest)

/-! ### Numbers and times -/

/-- The digits at the start of a text with single underscores between them, as they are written, and
the rest. -/
def takeNumeral (p : Char → Bool) : List Char → List Char × List Char
  | [] => ([], [])
  | [c] => if p c then ([c], []) else ([], [c])
  | c :: '_' :: d :: rest =>
    if p c && p d then
      let (ds, after) := takeNumeral p (d :: rest)
      (c :: ds, after)
    else if p c then ([c], '_' :: d :: rest)
    else ([], c :: '_' :: d :: rest)
  | c :: d :: rest =>
    if p c then
      let (ds, after) := takeNumeral p (d :: rest)
      (c :: ds, after)
    else ([], c :: d :: rest)

/-- An integer in another base after a zero and a letter. -/
def readBased? (s : List Char) : Option (Value × List Char) :=
  let numeral (base : Nat) (p : Char → Bool) (body : List Char) : Option (Value × List Char) :=
    match takeNumeral p body with
    | ([], _) => none
    | (ds, rest) => (digitsIn? base 0 ds).map fun n => (.int n, rest)
  match s with
  | '0' :: 'x' :: body => numeral 16 isHexDigit body
  | '0' :: 'b' :: body => numeral 2 (fun c => c == '0' || c == '1') body
  | '0' :: 'o' :: body => numeral 8 isOctalDigit body
  | _ => none

/-- The sign at the start of a text. -/
def takeSign : List Char → Bool × List Char
  | '-' :: rest => (true, rest)
  | '+' :: rest => (false, rest)
  | s => (false, s)

/-- The fraction at the start of a text, without the point. -/
def takeFraction : List Char → List Char × List Char
  | '.' :: rest =>
    match takeNumeral isAsciiDigit rest with
    | ([], _) => ([], '.' :: rest)
    | r => r
  | s => ([], s)

/-- The exponent at the start of a text, if there is one. -/
def takeExponent (s : List Char) : Option Int × List Char :=
  match s with
  | e :: rest =>
    if e == 'e' || e == 'E' then
      let (negative, digits) := takeSign rest
      match takeNumeral isAsciiDigit digits with
      | ([], _) => (none, s)
      | (ds, after) =>
        let n : Int := decimalValue ds
        (some (if negative then -n else n), after)
    else (none, s)
  | [] => (none, [])

/-- A decimal number, if there is one at the start of a text. -/
def readDecimal? (s : List Char) : Option (Except Fault (Value × List Char)) :=
  let (negative, body) := takeSign s
  let (whole, rest) := match body with
    | '0' :: rest => (['0'], rest)
    | body => takeNumeral isAsciiDigit body
  if whole.isEmpty then none
  else
    let (fraction, rest) := takeFraction rest
    let (exponent, rest) := takeExponent rest
    if fraction.isEmpty && exponent.isNone then
      if maxDigits < whole.length then some (.error (.tooManyDigits whole.length))
      else
        let n : Int := decimalValue whole
        some (.ok (.int (if negative then -n else n), rest))
    else
      let x := scaled (decimalValue (whole ++ fraction)) (exponent.getD 0 - fraction.length)
      some (.ok (.float (if negative then -x else x), rest))

/-- Infinity or no number, if it is named at the start of a text. -/
def readNamedFloat? (s : List Char) : Option (Value × List Char) :=
  let (negative, body) := takeSign s
  if "inf".toList.isPrefixOf body then
    some (.float (if negative then -(1 / 0) else 1 / 0), body.drop 3)
  else if "nan".toList.isPrefixOf body then some (.float (0 / 0), body.drop 3)
  else none

/-- Two digits at the start of a text that make a number in a range. -/
def twoDigits? (least most : Nat) (s : List Char) : Option (Nat × List Char) := do
  let (ds, rest) ← Yaml.digitGroup? 2 2 s
  let n := decimalValue ds
  if least ≤ n && n ≤ most then some (n, rest) else none

/-- The seconds at the start of a text, if there are any. -/
def dropSeconds (s : List Char) : List Char :=
  match s with
  | ':' :: rest =>
    match twoDigits? 0 59 rest with
    | some (_, rest) =>
      match rest with
      | '.' :: fraction =>
        let digits := fraction.takeWhile isAsciiDigit
        if digits.isEmpty then rest else fraction.drop digits.length
      | rest => rest
    | none => s
  | s => s

/-- What follows a time of the day, if there is one at the start of a text. -/
def dropTime? (s : List Char) : Option (List Char) := do
  let (_, rest) ← twoDigits? 0 23 s
  let (_, rest) ← Yaml.oneOf? [':'] rest
  let (_, rest) ← twoDigits? 0 59 rest
  some (dropSeconds rest)

/-- What follows a zone at the start of a text, if there is one. -/
def dropZone (s : List Char) : List Char :=
  match s with
  | 'Z' :: rest | 'z' :: rest => rest
  | s =>
    (do
      let (_, rest) ← Yaml.oneOf? ['+', '-'] s
      let (_, rest) ← twoDigits? 0 23 rest
      let (_, rest) ← Yaml.oneOf? [':'] rest
      let (_, rest) ← twoDigits? 0 59 rest
      some rest).getD s

/-- What follows the time after a date, if there is one. -/
def dropTimeOfDay (s : List Char) : List Char :=
  match s with
  | c :: rest =>
    if c == 'T' || c == 't' || c == ' ' then ((dropTime? rest).map dropZone).getD s else s
  | [] => []

/-- A date with or without a time, if there is one at the start of a text. -/
def readMoment? (s : List Char) : Option (Except Fault (Value × List Char)) := do
  let (year, rest) ← Yaml.digitGroup? 4 4 s
  let (_, rest) ← Yaml.oneOf? ['-'] rest
  let (month, rest) ← twoDigits? 1 12 rest
  let (_, rest) ← Yaml.oneOf? ['-'] rest
  let (day, rest) ← twoDigits? 1 31 rest
  let rest := dropTimeOfDay rest
  some (match (⟨decimalValue year, month, day, true, none⟩ : Yaml.Moment).dateFault? with
    | some _ => .error (.here "Invalid date or datetime" s)
    | none => .ok (.moment, rest))

/-- Reads a time, a number or a name of a number. -/
def readPlainValue (s : List Char) : Except Fault (Value × List Char) :=
  match readMoment? s, dropTime? s, readBased? s, readDecimal? s, readNamedFloat? s with
  | some r, _, _, _, _ => r
  | _, some rest, _, _, _ => .ok (.moment, rest)
  | _, _, some r, _, _ => .ok r
  | _, _, _, some r, _ => r
  | _, _, _, _, some r => .ok r
  | _, _, _, _, _ => .error (.here "Invalid value" s)

end CommitPolicy.Toml
