import CommitPolicy.Console.EmojiNames
import CommitPolicy.Text.Blank
import CommitPolicy.Text.Case

/-!
# Emoji codes

A name between two colons stands for an emoji, in capitals or not; it can end in `-text` or `-emoji`
to ask for a presentation.  A name that is not known stays as it is written.
-/

namespace CommitPolicy.Console

open Text

/-- The presentations that can be asked for at the end of a name. -/
def presentations : List (List Char × Nat) := [("-text".toList, 0xFE0E), ("-emoji".toList, 0xFE0F)]

/-- The name in an emoji code without the presentation that it asks for, and the presentation. -/
def splitPresentation (code : List Char) : List Char × List Nat :=
  match presentations.find? fun p => p.1.isSuffixOf code with
  | some (ending, mark) => (code.take (code.length - ending.length), [mark])
  | none => (code, [])

/-- The characters that a code between colons stands for, if it is known. -/
def emoji? (code : List Char) : Option (List Char) :=
  let (name, mark) := splitPresentation code
  (emojiNames.lookup (toLower (String.ofList name))).map
    fun points => (points ++ mark).map Char.ofNat

/-- Writes emoji for their codes.  A code that is not known takes its two colons with it, so the
second one does not start another code; `code` holds, in reverse, what was read after a colon. -/
def replaceEmojiFrom (code : Option (List Char)) : List Char → List Char
  | [] => code.elim [] fun read => ':' :: read.reverse
  | c :: rest =>
    match code with
    | none => if c = ':' then replaceEmojiFrom (some []) rest else c :: replaceEmojiFrom none rest
    | some read =>
      if c = ':' then
        (emoji? read.reverse).getD (':' :: read.reverse ++ [':']) ++ replaceEmojiFrom none rest
      else if isBlank c then ':' :: read.reverse ++ c :: replaceEmojiFrom none rest
      else replaceEmojiFrom (some (c :: read)) rest

/-- Writes emoji for their codes. -/
def replaceEmoji (s : List Char) : List Char := replaceEmojiFrom none s

end CommitPolicy.Console
