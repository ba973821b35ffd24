import CommitPolicy.Text.CodePoints

/-!
# Blank characters

The white space of every script, with the separators U+001C to U+001F and the next-line control.
A line is blank when all its characters are, and trimming drops blank characters at the ends.
-/

namespace CommitPolicy.Text

/-- The blank characters. -/
def blankRanges : List (Nat × Nat) :=
  [(0x9, 0xD), (0x1C, 0x20), (0x85, 0x85), (0xA0, 0xA0), (0x1680, 0x1680), (0x2000, 0x200A),
    (0x2028, 0x2029), (0x202F, 0x202F), (0x205F, 0x205F), (0x3000, 0x3000)]

/-- Whether a character is white space. -/
def isBlank (c : Char) : Bool := inRanges blankRanges c.toNat

/-- Whether a line has no character but white space. -/
def isBlankLine (line : List Char) : Bool := line.all isBlank

/-- Drops the white space at the start. -/
def trimLeft (s : List Char) : List Char := s.dropWhile isBlank

/-- Drops the white space at the end. -/
def trimRight (s : List Char) : List Char := (s.reverse.dropWhile isBlank).reverse

/-- Drops the white space at both ends. -/
def trim (s : List Char) : List Char := trimRight (trimLeft s)

/-- Drops the white space at both ends of a text. -/
def strip (s : String) : String := String.ofList (trim s.toList)

end CommitPolicy.Text
