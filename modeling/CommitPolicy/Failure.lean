import CommitPolicy.Config.Error
import CommitPolicy.Message.Parse
import CommitPolicy.Text.Quoted

/-!
# Failures

Everything that can stop an operation, by its cause.  Only some causes have a wording that is shown.
-/

namespace CommitPolicy

/-- Why an operation stopped. -/
inductive Failure where
  | parse (e : ParseError)
  | config (e : ConfigError)
  /-- Values that do not fit a record, with what is wrong with each. -/
  | record (problems : List String)
  /-- An argument out of its range, or a numeral that is none. -/
  | argument (text : String)
  /-- Another caller did not finish computing the value of the key in time. -/
  | waitedTooLong (key : String)
  /-- A computation failed with a text of its own. -/
  | computation (text : String)
  /-- A number too large for what it is used for. -/
  | overflow
  /-- A setting whose name is no text, or is reserved. -/
  | badSettingName
  /-- A numeral without characters. -/
  | emptyNumeral
  /-- A text that is marked as a time and is none. -/
  | notMoment
  /-- A truth value that is none of the known spellings. -/
  | unknownTruthValue
  /-- A table was expected. -/
  | notTable
  | undecodable
  /-- A document nested more deeply than the stack has room for. -/
  | tooDeep
  | isDirectory
  /-- Something that is no directory on the way to a file. -/
  | notDirectory
  | fileExists
  | fileNotFound
  | badMarkup (text : String)
  /-- The user stopped the program. -/
  | interrupted
  | badType
  deriving DecidableEq, Repr

/-- The wording of a failure, where it has one. -/
def Failure.text : Failure → String
  | parse e => e.message
  | config e => e.message
  | record problems => Text.joinWith "; " problems
  | argument text => text
  | waitedTooLong key => "timed out waiting for " ++ Text.quoted key ++ " to be computed"
  | computation text => text
  | badMarkup text => text
  | _ => ""

end CommitPolicy
