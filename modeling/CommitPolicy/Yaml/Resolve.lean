import CommitPolicy.Text.Lines
import CommitPolicy.Yaml.Moment

/-!
# Kinds of plain scalars

The kind of a plain scalar without a tag follows from its text: null, a truth value, an integer, a
floating-point number, a time, a merge mark, a default mark, or else a text.
-/

namespace CommitPolicy.Yaml

open Text

/-- The start of the names of the standard tags. -/
def tagBase : String := "tag:yaml.org,2002:"

/-- The name of a standard tag. -/
def standardTag (name : String) : String := tagBase ++ name

/-- The spellings of null. -/
def nullTexts : List String := ["", "~", "null", "Null", "NULL"]

/-- The truth values, with their spellings in lower case. -/
def truthValues : List (String × Bool) :=
  [("yes", true), ("no", false), ("true", true), ("false", false), ("on", true), ("off", false)]

/-- Whether a text spells a truth value in lower case, in capitals, or with a capital at its
start. -/
def isTruthValue (s : String) : Bool :=
  truthValues.any fun (t, _) => s == t || s == t.toUpper || s == t.capitalize

/-- A digit or an underscore. -/
def isDigitPart (c : Char) : Bool := isAsciiDigit c || c == '_'

/-- A text without a sign at its start. -/
def dropSign : List Char → List Char
  | '-' :: rest => rest
  | '+' :: rest => rest
  | s => s

/-- Digits with underscores, the first character a digit that satisfies `p`. -/
def isNumeral (p : Char → Bool) : List Char → Bool
  | [] => false
  | c :: rest => isAsciiDigit c && p c && rest.all isDigitPart

/-- A number below sixty in one or two digits. -/
def isSixtieth : List Char → Bool
  | [c] => isAsciiDigit c
  | [c, d] => '0' ≤ c && c ≤ '5' && isAsciiDigit d
  | _ => false

/-- Whether a text without its sign is an integer: binary, octal, hexadecimal, decimal, or in parts
of which sixty of one make one of the part before it. -/
def isUnsignedInteger (s : List Char) : Bool :=
  match s with
  | '0' :: 'b' :: rest => !rest.isEmpty && rest.all fun c => c == '0' || c == '1' || c == '_'
  | '0' :: 'x' :: rest =>
    !rest.isEmpty && rest.all fun c =>
      isDigitPart c || ('a' ≤ c && c ≤ 'f') || ('A' ≤ c && c ≤ 'F')
  | '0' :: rest => rest.all fun c => ('0' ≤ c && c ≤ '7') || c == '_'
  | s =>
    match splitAt ':' s with
    | first :: parts => isNumeral (· != '0') first && parts.all isSixtieth
    | [] => false

/-- Whether a text is an integer. -/
def isInteger (s : List Char) : Bool := isUnsignedInteger (dropSign s)

/-- An exponent with a sign, or nothing. -/
def isExponent : List Char → Bool
  | [] => true
  | e :: sign :: digits =>
    (e == 'e' || e == 'E') && (sign == '+' || sign == '-') && !digits.isEmpty
      && digits.all isAsciiDigit
  | _ => false

/-- Whether a text without its sign is a floating-point number that starts with a digit: in decimal
notation, or in parts of sixty with a decimal fraction. -/
def isUnsignedFloat (s : List Char) : Bool :=
  let whole := s.takeWhile fun c => isDigitPart c || c == ':'
  match s.drop whole.length with
  | '.' :: rest =>
    let fraction := rest.takeWhile isDigitPart
    let tail := rest.drop fraction.length
    match splitAt ':' whole with
    | [digits] => isNumeral (fun _ => true) digits && isExponent tail
    | first :: parts => isNumeral (fun _ => true) first && parts.all isSixtieth && tail.isEmpty
    | [] => false
  | _ => false

/-- Whether a text is a floating-point number. -/
def isFloat (s : List Char) : Bool :=
  match s with
  | '.' :: rest =>
    let digits := rest.takeWhile isDigitPart
    (isNumeral (fun _ => true) digits && isExponent (rest.drop digits.length))
      || [".inf", ".Inf", ".INF", ".nan", ".NaN", ".NAN"].contains (String.ofList s)
  | _ =>
    isUnsignedFloat (dropSign s) || [".inf", ".Inf", ".INF"].contains (String.ofList (dropSign s))

/-- Whether a text is a date or a time. -/
def isMoment (s : List Char) : Bool :=
  match Moment.read? s with
  | some m => m.isPadded || m.time.isSome
  | none => false

/-- The tag of a plain scalar that has none. -/
def plainTag (s : String) : String :=
  let cs := s.toList
  standardTag (
    if nullTexts.contains s then "null"
    else if isTruthValue s then "bool"
    else if isFloat cs then "float"
    else if isInteger cs then "int"
    else if s == "<<" then "merge"
    else if isMoment cs then "timestamp"
    else if s == "=" then "value"
    else "str")

end CommitPolicy.Yaml
