import CommitPolicy.Config.Value
import CommitPolicy.Text.Integer
import CommitPolicy.Text.Lines
import CommitPolicy.Text.Utf8
import CommitPolicy.Text.Whole

/-!
# Lenient settings

A setting of a document is taken as a text, a truth value, an integer or a list where its value can
be read as one without loss.  A value that cannot is refused with a wording that says why.
-/

namespace CommitPolicy

open Text

/-- Characters that are dropped around a numeral: white space, the separators U+001C to U+001F
excepted. -/
def isNumeralBlank (c : Char) : Bool := isBlank c && !(0x1C ≤ c.toNat && c.toNat ≤ 0x1F)

/-- Drops the blanks around a numeral. -/
def trimNumeral (s : List Char) : List Char :=
  ((s.dropWhile isNumeralBlank).reverse.dropWhile isNumeralBlank).reverse

/-- The value of a numeral: an optional minus sign and digits without leading zeros. -/
def plainNumeral? (s : List Char) : Option Int :=
  let negative := s.head? == some '-'
  let ds := if negative then s.drop 1 else s
  if ds.isEmpty || !ds.all isAsciiDigit || (ds.head? == some '0' && ds.length != 1) then none
  else some (if negative then -(decimalValue ds : Int) else decimalValue ds)

/-- Drops the zeros, and the underscores among them, in front of a numeral.  A zero stays before a
point and in a numeral of zeros. -/
def dropLeadingZeros? (s : List Char) : Option (List Char) :=
  match s with
  | '0' :: rest =>
    match rest.dropWhile fun c => c == '0' || c == '_' with
    | [] => some (s.drop (s.length - 1))
    | '.' :: tail => some (s.drop (s.length - tail.length - 2))
    | c :: tail => if isAsciiDigit c then some (c :: tail) else none
  | c :: _ => if isAsciiDigit c || c == '-' then some s else none
  | [] => none

/-- Drops a point and the zeros after it, of which there has to be one. -/
def dropDecimalZeros (s : List Char) : List Char :=
  let whole := s.takeWhile (· != '.')
  let fraction := s.drop (whole.length + 1)
  if !fraction.isEmpty && fraction.all (· == '0') then whole else s

/-- Drops underscores that stand alone between other characters. -/
def dropUnderscores (s : List Char) : List Char :=
  if s.head? == some '_' || s.getLast? == some '_' || contains "__".toList s then s
  else s.filter (· != '_')

/-- Writes a numeral without what may be left out of it. -/
def cleanNumeral? (s : List Char) : Option (List Char) :=
  let body := if s.head? == some '+' then s.drop 1 else s
  if s.head? == some '+' && body.head? == some '-' then none
  else (dropLeadingZeros? body).map fun t => dropUnderscores (dropDecimalZeros t)

namespace Value

/-- The wording for an integer that is out of range. -/
def integerTooLarge : String := "Unable to parse input string as an integer, exceeded maximum size"

/-- An integer written as text. -/
def integerOfText (s : String) : Except String Int :=
  let t := trimNumeral s.toList
  if maxDigits < t.length then .error integerTooLarge
  else
    match (plainNumeral? t).or ((cleanNumeral? t).bind plainNumeral?) with
    | some n => .ok n
    | none => .error "Input should be a valid integer, unable to parse string as an integer"

/-- An integer written as a floating-point value. -/
def integerOfFloat (x : Float) : Except String Int :=
  if x.isNaN || x.isInf then .error "Input should be a finite number"
  else
    let (negative, m, e) := floatParts x
    if e < 0 && m % (1 <<< (-e).toNat) != 0 then
      .error "Input should be a valid integer, got a number with a fractional part"
    else
      let n := roundScaled m e
      if 0x8000000000000000 ≤ n then .error integerTooLarge
      else .ok (if negative then -(n : Int) else n)

/-- The value as an integer. -/
def toInteger : Value → Except String Int
  | bool b => .ok (if b then 1 else 0)
  | int n => .ok n
  | float x => integerOfFloat x
  | text s => integerOfText s
  | bytes b =>
    match decode? b with
    | some s => integerOfText s
    | none => .error "Input should be a valid integer, unable to parse string as an integer"
  | _ => .error "Input should be a valid integer"

/-- The wording for a value that spells no truth value. -/
def noTruthValue : String := "Input should be a valid boolean, unable to interpret input"

/-- A truth value written as text, in ASCII letters of any case. -/
def boolOfText (s : String) : Except String Bool :=
  let t := String.ofList (s.toList.map Char.toLower)
  if ["0", "f", "n", "no", "off", "false"].contains t then .ok false
  else if ["1", "t", "y", "on", "yes", "true"].contains t then .ok true
  else .error noTruthValue

/-- A truth value written as an integer. -/
def boolOfInteger (n : Int) : Except String Bool :=
  if n = 0 then .ok false else if n = 1 then .ok true else .error noTruthValue

/-- The value as a truth value. -/
def toBool : Value → Except String Bool
  | bool b => .ok b
  | int n =>
    if -0x8000000000000000 ≤ n && n < 0x8000000000000000 then boolOfInteger n
    else .error "Input should be a valid boolean"
  | float x =>
    match integerOfFloat x with
    | .ok n => boolOfInteger n
    | .error _ => .error "Input should be a valid boolean"
  | text s => boolOfText s
  | bytes b =>
    match decode? b with
    | some s => boolOfText s
    | none => .error noTruthValue
  | _ => .error "Input should be a valid boolean"

/-- The value as a text. -/
def toText : Value → Except String String
  | text s => .ok s
  | bytes b =>
    match decode? b with
    | some s => .ok s
    | none => .error
      "Input should be a valid string, unable to parse raw data as a unicode string"
  | _ => .error "Input should be a valid string"

/-- The items of a value that is a list or a set. -/
def toItems : Value → Except String (List Value)
  | list items => .ok items
  | set items => .ok items
  | pair k v => .ok [k, v]
  | _ => .error "Input should be a valid list"

end Value

end CommitPolicy
