import CommitPolicy.Text.Case
import CommitPolicy.Text.Lines
import CommitPolicy.Text.Word

/-!
# Footers

A footer line is a key, a separator and a value: `Key: value` with a value that is not blank, or
`Key #123` with decimal digits.  A key is made of ASCII letters and hyphens, and before a colon it
may also be `BREAKING CHANGE`.  `Footer.ofLine?` reads a footer line and `Footer.format` writes it.
A line that opens like a footer and breaks this grammar is malformed.
-/

namespace CommitPolicy

open Text

/-- A footer of a commit message. -/
structure Footer where
  key : String
  value : String
  separator : String
  deriving DecidableEq, Repr

namespace Footer

/-- The key of a footer that declares a breaking change. -/
def breakingKey : String := "BREAKING CHANGE"

/-- The capital of an ASCII letter.  The dotless i is the only other character whose upper case is
an ASCII capital of the breaking key. -/
def capital (c : Char) : Char := if c.toNat = 0x131 then 'I' else c.toUpper

/-- The key without white space at its ends, in the form in which keys are compared: a spelling of
the breaking key becomes the breaking key, any other key is in lower case. -/
def normalizeKey (key : String) : String :=
  let upper := (trim key.toList).map capital
  if upper = breakingKey.toList || upper = "BREAKING-CHANGE".toList then breakingKey
  else toLower (strip key)

/-- The key as keys are compared. -/
def normalizedKey (f : Footer) : String := normalizeKey f.key

/-- Whether the footer declares a breaking change. -/
def isBreaking (f : Footer) : Bool := f.normalizedKey == breakingKey

/-- The footer as one line. -/
def format (f : Footer) : String := f.key ++ f.separator ++ f.value

/-- A character of a key. -/
def isKeyChar (c : Char) : Bool := isAsciiLetter c || c == '-'

/-- Reads what follows the key: a colon, a space and a value that is not blank. -/
def ofColon? (key : List Char) : List Char → Option Footer
  | ':' :: ' ' :: value =>
    if isBlankLine value then none
    else some ⟨String.ofList key, String.ofList value, ": "⟩
  | _ => none

/-- Reads what follows the key: a space, a number sign and decimal digits. -/
def ofNumberSign? (key : List Char) : List Char → Option Footer
  | ' ' :: '#' :: value =>
    if !value.isEmpty && value.all isDigit then
      some ⟨String.ofList key, String.ofList value, " #"⟩
    else none
  | _ => none

/-- Reads a line whose key is made of letters and hyphens. -/
def ofToken? (line : List Char) : Option Footer :=
  let key := line.takeWhile isKeyChar
  let rest := line.dropWhile isKeyChar
  if key.isEmpty then none
  else (ofColon? key rest).or (ofNumberSign? key rest)

/-- Reads a footer line. -/
def ofLine? (line : List Char) : Option Footer :=
  if breakingKey.toList.isPrefixOf line then
    (ofColon? breakingKey.toList (line.drop breakingKey.length)).or (ofToken? line)
  else ofToken? line

/-- What follows the token of a line that starts with a letter and then letters and hyphens. -/
def afterToken? : List Char → Option (List Char)
  | [] => none
  | c :: rest => if isAsciiLetter c then some (rest.dropWhile isKeyChar) else none

/-- After the token: a colon that no value follows in the way of a footer.  A double slash makes a
link, not a footer. -/
def isBotchedColon : List Char → Bool
  | ':' :: rest =>
    !isBlankLine rest
      && !("//".toList.isPrefixOf rest)
      && (match rest with
        | ' ' :: c :: _ => isBlank c
        | _ => true)
  | _ => false

/-- After the token: a number sign that is not followed by digits alone. -/
def isBotchedNumberSign : List Char → Bool
  | ' ' :: '#' :: rest => rest.isEmpty || !rest.all isDigit
  | _ => false

/-- After the token: a colon and nothing but white space. -/
def isBareColon : List Char → Bool
  | ':' :: rest => isBlankLine rest
  | _ => false

/-- Drops the letters of `word` from the start of a text, each in any case. -/
def dropWord? : List Char → List Char → Option (List Char)
  | [], rest => some rest
  | _ :: _, [] => none
  | w :: word, c :: rest => if sameLetter w c then dropWord? word rest else none

/-- Drops one space, underscore or hyphen, if there is one. -/
def dropJoint : List Char → List Char
  | c :: rest => if c == ' ' || c == '_' || c == '-' then rest else c :: rest
  | [] => []

/-- Opens with the breaking key in capitals, the joint being a space, an underscore, a hyphen or
nothing, and the word ends there. -/
def opensBreaking (line : List Char) : Bool :=
  if "BREAKING".toList.isPrefixOf line then
    let rest := dropJoint (line.drop 8)
    "CHANGE".toList.isPrefixOf rest
      && (match rest.drop 6 with
        | c :: _ => !isWordChar c
        | [] => true)
  else false

/-- Opens with the breaking key in any case, then optional white space and a colon. -/
def opensBreakingColon (line : List Char) : Bool :=
  match dropWord? "breaking".toList line with
  | none => false
  | some rest =>
    match dropWord? "change".toList (dropJoint rest) with
    | none => false
    | some rest => (trimLeft rest).head? == some ':'

/-- Whether a line attempts a footer and fails, wherever it stands in its paragraph. -/
def isBotched (line : List Char) : Bool :=
  (match afterToken? line with
    | some rest => isBotchedColon rest || isBotchedNumberSign rest
    | none => false)
    || opensBreaking line || opensBreakingColon line

/-- Whether a line is a token and a colon alone. -/
def isBareToken (line : List Char) : Bool :=
  match afterToken? line with
  | some rest => isBareColon rest
  | none => false

/-- The lines of a paragraph that attempt a footer and fail.  A bare token counts in the last line
only: above other lines it is a heading. -/
def malformedLines : List (List Char) → List (List Char)
  | [] => []
  | [line] => if isBareToken line || isBotched line then [line] else []
  | line :: rest => if isBotched line then line :: malformedLines rest else malformedLines rest

/-- Splits lines into the lines above and the footers of the longest run of footer lines at the
end. -/
def splitTrailing : List (List Char) → List (List Char) × List Footer
  | [] => ([], [])
  | line :: rest =>
    match splitTrailing rest with
    | ([], footers) =>
      match ofLine? line with
      | some f => ([], f :: footers)
      | none => ([line], footers)
    | (above, footers) => (line :: above, footers)

end Footer

end CommitPolicy
