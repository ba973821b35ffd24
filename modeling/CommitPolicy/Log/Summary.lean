import CommitPolicy.Text.Lines

/-!
# Summaries

The first line of a message, cut to a width.
-/

namespace CommitPolicy

open Text

/-- The first `n` characters of a text, or all but the last `-n` if `n` is negative. -/
def takeSigned (n : Int) (s : List Char) : List Char :=
  if 0 ≤ n then s.take n.toNat else s.take (s.length - (-n).toNat)

/-- The width of a summary unless another one is asked for. -/
def summaryWidth : Int := 72

/-- The first line of a message without the white space around the message.  A line longer than
`width` is cut so that it has that length with three dots at its end. -/
def summarize (message : String) (width : Int) : String :=
  let text := trim message.toList
  let line := if text.isEmpty then "<empty message>".toList else text.takeWhile (· != '\n')
  if width < line.length then String.ofList (takeSigned (width - 3) line ++ ['.', '.', '.'])
  else String.ofList line

end CommitPolicy
