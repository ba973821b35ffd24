import CommitPolicy.Text.Blank

/-!
# Lines

A text is cut into lines at line feeds, so that `n` line feeds give `n + 1` lines and joining the
lines gives the text back.
-/

namespace CommitPolicy.Text

/-- The pieces between the occurrences of `sep`; there is always at least one. -/
def splitAt (sep : Char) : List Char → List (List Char)
  | [] => [[]]
  | c :: rest =>
    if c = sep then [] :: splitAt sep rest
    else
      match splitAt sep rest with
      | [] => [[c]]
      | piece :: pieces => (c :: piece) :: pieces

/-- The lines of a text, cut at line feeds. -/
def splitLines (s : List Char) : List (List Char) := splitAt '\n' s

/-- The lines as one text, with a line feed between two of them. -/
def joinLines : List (List Char) → List Char
  | [] => []
  | [line] => line
  | line :: rest => line ++ '\n' :: joinLines rest

/-- Writes a line feed for every pair of a carriage return and a line feed. -/
def unixNewlines : List Char → List Char
  | [] => []
  | '\r' :: '\n' :: rest => '\n' :: unixNewlines rest
  | c :: rest => c :: unixNewlines rest

/-- Writes a line feed for every carriage return, alone or before a line feed. -/
def universalNewlines : List Char → List Char
  | [] => []
  | '\r' :: '\n' :: rest => '\n' :: universalNewlines rest
  | '\r' :: rest => '\n' :: universalNewlines rest
  | c :: rest => c :: universalNewlines rest

/-- Drops the blank lines at both ends. -/
def trimBlankLines (lines : List (List Char)) : List (List Char) :=
  ((lines.dropWhile isBlankLine).reverse.dropWhile isBlankLine).reverse

/-- The lines after the last blank line. -/
def lastParagraph : List (List Char) → List (List Char)
  | [] => []
  | line :: rest =>
    if rest.any isBlankLine then lastParagraph rest
    else if isBlankLine line then rest
    else line :: rest

/-- Whether `needle` occurs in a text. -/
def contains (needle : List Char) : List Char → Bool
  | [] => needle.isEmpty
  | c :: rest => needle.isPrefixOf (c :: rest) || contains needle rest

/-- The texts with `sep` between two of them. -/
def joinWith (sep : String) : List String → String
  | [] => ""
  | [s] => s
  | s :: rest => s ++ sep ++ joinWith sep rest

end CommitPolicy.Text
