import CommitPolicy.Yaml.Cursor

/-!
# Tokens

The tokens of a YAML text.  Some stand for characters of the text, others for the starts and ends of
collections that are told from the indentation alone.
-/

namespace CommitPolicy.Yaml

/-- The notations of a scalar. -/
inductive ScalarStyle where
  | plain
  | singleQuoted
  | doubleQuoted
  | block
  deriving DecidableEq, Repr

/-- The directives at the start of a document. -/
inductive Directive where
  | version (major minor : Nat)
  | tag (handle uri : String)
  | other
  deriving DecidableEq, Repr

/-- A tag as it is written: a handle and what follows it, or a tag without a handle. -/
structure TagName where
  handle : Option String
  suffix : String
  deriving DecidableEq, Repr

/-- What a token stands for. -/
inductive TokenKind where
  | streamEnd
  | directive (d : Directive)
  | documentStart
  | documentEnd
  | blockSequenceStart
  | blockMappingStart
  | blockEnd
  | flowSequenceStart
  | flowSequenceEnd
  | flowMappingStart
  | flowMappingEnd
  | flowEntry
  | blockEntry
  | key
  | value
  | anchorUse (name : String)
  | anchor (name : String)
  | tag (name : TagName)
  | scalar (text : String) (style : ScalarStyle)
  deriving DecidableEq, Repr

/-- A token, and where it starts and ends. -/
structure Token where
  kind : TokenKind
  start : Mark
  stop : Mark
  deriving DecidableEq, Repr

/-- A token as it is named in a fault. -/
def TokenKind.label : TokenKind → String
  | streamEnd => "'<stream end>'"
  | directive _ => "'<directive>'"
  | documentStart => "'<document start>'"
  | documentEnd => "'<document end>'"
  | blockSequenceStart => "'<block sequence start>'"
  | blockMappingStart => "'<block mapping start>'"
  | blockEnd => "'<block end>'"
  | flowSequenceStart => "'['"
  | flowSequenceEnd => "']'"
  | flowMappingStart => "'\x7b'"
  | flowMappingEnd => "'\x7d'"
  | flowEntry => "','"
  | blockEntry => "'-'"
  | key => "'?'"
  | value => "':'"
  | anchorUse _ => "'<alias>'"
  | anchor _ => "'<anchor>'"
  | tag _ => "'<tag>'"
  | scalar _ _ => "'<scalar>'"

end CommitPolicy.Yaml
