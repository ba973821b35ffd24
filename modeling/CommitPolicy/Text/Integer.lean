import CommitPolicy.Text.Blank
import CommitPolicy.Text.Word

/-!
# Integers in text

`readInteger?` reads an integer the lenient way: white space at the ends, a sign, and decimal digits
of any script with single underscores between them.
-/

namespace CommitPolicy.Text

/-- The value of digits with single underscores between them, added to `n`; the text has to be
non-empty and may not end in an underscore. -/
def digitsValue? (n : Nat) : List Char → Option Nat
  | [] => none
  | [c] => (digitValue? c).map (n * 10 + ·)
  | c :: '_' :: rest => do digitsValue? (n * 10 + (← digitValue? c)) rest
  | c :: rest => do digitsValue? (n * 10 + (← digitValue? c)) rest

/-- Reads an integer. -/
def readInteger? (s : String) : Option Int :=
  match trim s.toList with
  | '-' :: rest => (digitsValue? 0 rest).map fun n => -(n : Int)
  | '+' :: rest => (digitsValue? 0 rest).map Int.ofNat
  | rest => (digitsValue? 0 rest).map Int.ofNat

/-- The value of a digit of a base up to thirty-six. -/
def digitIn? (base : Nat) (c : Char) : Option Nat :=
  let n := (digitValue? c).or
    (if isAsciiLetter c then some (c.toLower.toNat - 87) else none)
  n.filter (· < base)

/-- The value of digits of a base, added to `n`; the text has to be non-empty. -/
def digitsIn? (base n : Nat) : List Char → Option Nat
  | [] => none
  | [c] => (digitIn? base c).map (n * base + ·)
  | c :: rest => do digitsIn? base (n * base + (← digitIn? base c)) rest

/-- A text without the letter that announces a base, in a base that has one. -/
def dropBaseLetter (base : Nat) : List Char → List Char
  | '0' :: c :: rest =>
    let letter := if base = 2 then 'b' else if base = 8 then 'o' else if base = 16 then 'x' else '0'
    if c.toLower = letter && !rest.isEmpty then rest else '0' :: c :: rest
  | s => s

/-- Reads an integer in a base. -/
def readIntegerIn? (base : Nat) (s : List Char) : Option Int :=
  match trim s with
  | '-' :: rest => (digitsIn? base 0 (dropBaseLetter base rest)).map fun n => -(n : Int)
  | '+' :: rest => (digitsIn? base 0 (dropBaseLetter base rest)).map Int.ofNat
  | rest => (digitsIn? base 0 (dropBaseLetter base rest)).map Int.ofNat

/-- The number of digits beyond which a numeral is refused. -/
def maxDigits : Nat := 4300

/-- The wording of the refusal of a numeral with `n` digits. -/
def tooManyDigitsText (n : Nat) : String :=
  "Exceeds the limit (4300 digits) for integer string conversion: value has " ++ toString n
    ++ " digits; use sys.set_int_max_str_digits() to increase the limit"

/-- The value of ASCII digits. -/
def decimalValue (s : List Char) : Nat := s.foldl (fun n c => n * 10 + (c.toNat - 48)) 0

/-- The value of hexadecimal digits. -/
def hexValue (s : List Char) : Nat :=
  s.foldl (fun n c => n * 16 + (if c.isDigit then c.toNat - 48 else c.toLower.toNat - 87)) 0

/-- The value of digits of a base up to ten. -/
def baseValue (base : Nat) (s : List Char) : Nat :=
  s.foldl (fun n c => n * base + (c.toNat - 48)) 0

/-- A hexadecimal digit of either case. -/
def isHexDigit (c : Char) : Bool :=
  isAsciiDigit c || ('a' ≤ c && c ≤ 'f') || ('A' ≤ c && c ≤ 'F')

/-- An octal digit. -/
def isOctalDigit (c : Char) : Bool := '0' ≤ c && c ≤ '7'

end CommitPolicy.Text
