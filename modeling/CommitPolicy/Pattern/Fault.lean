import CommitPolicy.Text.Quoted

/-!
# Faults of a pattern

A pattern is refused for a fault, most often at a position, counted in characters.  `faultText`
words it; for a pattern of several lines it also names the line and the column.
-/

namespace CommitPolicy.Pattern

open Text

/-- What is wrong with a pattern. -/
inductive Fault where
  | danglingEscape
  | incompleteEscape (escape : String)
  | badEscape (escape : String)
  | octalTooLarge (escape : String)
  | missingBrace
  | missingName (what : String)
  | unterminatedName (terminator : String)
  | unknownCharacterName (name : String)
  | openGroup
  | sameLookBehind
  | unknownGroupNumber (n : Nat)
  | zeroGroup
  | badGroupName (name : String)
  | unknownGroupName (name : String)
  | redefinedGroup (name : String) (now before : Nat)
  | unterminatedSet
  | badRange (low high : String)
  | minAboveMax
  | nothingToRepeat
  | multipleRepeat
  | unexpectedEnd
  | unknownExtension (text : String)
  | unterminatedComment
  | unterminatedGroup
  | tooManyBranches
  | lateFlags
  | localeFlag
  | clashingFlags
  | unknownFlag
  | missingFlagEnd
  | missingFlag
  | missingColon
  | globalFlagOn
  | globalFlagOff
  | classFlagOff
  | flagOnAndOff
  | unbalancedParenthesis
  | looksTooFarBehind
  | variableLookBehind
  | repeatInTemplate (operator : String)
  | nestedTooDeep
  deriving DecidableEq, Repr

/-- The wording of a fault. -/
def Fault.text : Fault → String
  | danglingEscape => "bad escape (end of pattern)"
  | incompleteEscape e => "incomplete escape " ++ e
  | badEscape e => "bad escape " ++ e
  | octalTooLarge e => "octal escape value " ++ e ++ " outside of range 0-0o377"
  | missingBrace => "missing \x7b"
  | missingName what => "missing " ++ what
  | unterminatedName t => "missing " ++ t ++ ", unterminated name"
  | unknownCharacterName n => "undefined character name " ++ quoted n
  | openGroup => "cannot refer to an open group"
  | sameLookBehind => "cannot refer to group defined in the same lookbehind subpattern"
  | unknownGroupNumber n => "invalid group reference " ++ toString n
  | zeroGroup => "bad group number"
  | badGroupName n => "bad character in group name " ++ quoted n
  | unknownGroupName n => "unknown group name " ++ quoted n
  | redefinedGroup n now before =>
    "redefinition of group name " ++ quoted n ++ " as group " ++ toString now ++ "; was group "
      ++ toString before
  | unterminatedSet => "unterminated character set"
  | badRange low high => "bad character range " ++ low ++ "-" ++ high
  | minAboveMax => "min repeat greater than max repeat"
  | nothingToRepeat => "nothing to repeat"
  | multipleRepeat => "multiple repeat"
  | unexpectedEnd => "unexpected end of pattern"
  | unknownExtension t => "unknown extension ?" ++ t
  | unterminatedComment => "missing ), unterminated comment"
  | unterminatedGroup => "missing ), unterminated subpattern"
  | tooManyBranches => "conditional backref with more than two branches"
  | lateFlags => "global flags not at the start of the expression"
  | localeFlag => "bad inline flags: cannot use 'L' flag with a str pattern"
  | clashingFlags => "bad inline flags: flags 'a', 'u' and 'L' are incompatible"
  | unknownFlag => "unknown flag"
  | missingFlagEnd => "missing -, : or )"
  | missingFlag => "missing flag"
  | missingColon => "missing :"
  | globalFlagOn => "bad inline flags: cannot turn on global flag"
  | globalFlagOff => "bad inline flags: cannot turn off global flag"
  | classFlagOff => "bad inline flags: cannot turn off flags 'a', 'u' and 'L'"
  | flagOnAndOff => "bad inline flags: flag turned on and off"
  | unbalancedParenthesis => "unbalanced parenthesis"
  | looksTooFarBehind => "looks too much behind"
  | variableLookBehind => "look-behind requires fixed-width pattern"
  | repeatInTemplate op => "internal: unsupported template operator " ++ op
  | nestedTooDeep => "pattern nested too deeply"

/-- Why a text is no pattern: a fault of its grammar, a repetition count or a code point out of
range, a numeral with too many digits, modes that exclude each other, or groups nested more deeply
than the stack has room for. -/
inductive Refusal where
  | fault (f : Fault) (position : Option Nat)
  | repetitionTooLarge
  | codePointTooLarge
  | tooManyDigits (n : Nat)
  | clashingModes
  | tooDeep
  deriving DecidableEq, Repr

/-- The line and the column of a position, both counted from one. -/
def lineColumn (source : List Char) (position : Nat) : Nat × Nat :=
  let before := source.take position
  (before.count '\n' + 1, (before.reverse.takeWhile (· != '\n')).length + 1)

/-- The wording of a fault in the pattern `source`. -/
def faultText (source : String) (f : Fault) : Option Nat → String
  | none => f.text
  | some n =>
    let at_ := f.text ++ " at position " ++ toString n
    let chars := source.toList
    if chars.contains '\n' then
      let (line, column) := lineColumn chars n
      at_ ++ " (line " ++ toString line ++ ", column " ++ toString column ++ ")"
    else at_

end CommitPolicy.Pattern
