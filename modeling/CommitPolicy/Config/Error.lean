import CommitPolicy.Text.Lines

/-!
# Configuration errors

The ways in which a configuration cannot be read or is no policy.
-/

namespace CommitPolicy

/-- A setting whose value is not acceptable: the way to it in the document, and what is wrong. -/
structure SettingError where
  path : List String
  text : String
  deriving DecidableEq, Repr

/-- What is wrong with a configuration. -/
inductive ConfigError where
  | notFound (path : String)
  | malformedYaml (path detail : String)
  | malformedToml (path detail : String)
  | notMapping (path : String)
  | badSettings (origin : String) (problems : List SettingError)
  | noTypes
  | badSubjectLength (n : Int)
  | unnamedRule (index : Nat)
  | missingPattern (rule : String)
  /-- The pattern that belongs to `owner` does not follow the grammar of patterns. -/
  | badPattern (owner source detail : String)
  deriving DecidableEq, Repr

/-- The kinds of configuration error. -/
inductive ConfigErrorKind where
  | invalidFile
  | invalidValue
  | invalidPattern
  deriving DecidableEq, Repr

namespace ConfigError

/-- The kind of an error. -/
def kind : ConfigError → ConfigErrorKind
  | noTypes | badSubjectLength _ | unnamedRule _ | missingPattern _ => .invalidValue
  | badPattern _ _ _ => .invalidPattern
  | _ => .invalidFile

/-- The rule or the option that an error belongs to. -/
def owner? : ConfigError → Option String
  | missingPattern rule => some rule
  | badPattern owner _ _ => some owner
  | _ => none

/-- A problem with a setting as one line. -/
def problemText (p : SettingError) : String := Text.joinWith "." p.path ++ ": " ++ p.text

/-- What is wrong. -/
def description : ConfigError → String
  | notFound path => "config file not found: " ++ path
  | malformedYaml path detail => "invalid YAML in " ++ path ++ ": " ++ detail
  | malformedToml path detail => "invalid TOML in " ++ path ++ ": " ++ detail
  | notMapping path => "configuration in " ++ path ++ " must be a mapping of settings"
  | badSettings origin problems =>
    "invalid settings in " ++ origin ++ ": " ++ Text.joinWith "; " (problems.map problemText)
  | noTypes => "at least one commit type must be defined"
  | badSubjectLength n => "max_subject_length must be positive, got " ++ toString n
  | unnamedRule index => "custom rule " ++ toString index ++ ": name is required"
  | missingPattern _ => "custom rule pattern is required"
  | badPattern _ source detail =>
    "invalid regular expression '" ++ source ++ "': " ++ detail

/-- What is wrong, and which rule or option it belongs to, if that has a name. -/
def message (e : ConfigError) : String :=
  match e.owner? with
  | some owner => if owner.isEmpty then e.description else e.description ++ " [" ++ owner ++ "]"
  | none => e.description

end ConfigError

end CommitPolicy
