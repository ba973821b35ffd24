import CommitPolicy.Text.Printable

/-!
# Quoted text

`quoted` writes a text between quotes so that it shows in one line: single quotes, or double quotes
around a text with single quotes and no double ones.  A backslash escapes the quote, itself and the
characters that do not show.
-/

namespace CommitPolicy.Text

/-- A hexadecimal digit in lower case. -/
def hexDigit (n : Nat) : Char := if n < 10 then Char.ofNat (48 + n) else Char.ofNat (87 + n)

/-- The last `width` hexadecimal digits of `n`. -/
def hexDigits : Nat → Nat → List Char
  | 0, _ => []
  | width + 1, n => hexDigits width (n / 16) ++ [hexDigit (n % 16)]

/-- A character between quotes of the kind `q`. -/
def quotedChar (q c : Char) : List Char :=
  if c = q || c = '\\' then ['\\', c]
  else if c = '\n' then ['\\', 'n']
  else if c = '\r' then ['\\', 'r']
  else if c = '\t' then ['\\', 't']
  else if isPrintable c then [c]
  else if c.toNat < 0x100 then '\\' :: 'x' :: hexDigits 2 c.toNat
  else if c.toNat < 0x10000 then '\\' :: 'u' :: hexDigits 4 c.toNat
  else '\\' :: 'U' :: hexDigits 8 c.toNat

/-- The text between quotes. -/
def quoted (s : String) : String :=
  let text := s.toList
  let q := if text.contains '\'' && !text.contains '"' then '"' else '\''
  String.ofList (q :: text.flatMap (quotedChar q) ++ [q])

end CommitPolicy.Text
