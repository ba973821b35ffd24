import CommitPolicy.Config.Fields
import CommitPolicy.Config.LogFile
import CommitPolicy.Failure
import CommitPolicy.Text.Case

/-!
# Settings from the environment

Environment variables set fields that a document does not set.  Lists are written with commas, and
the spellings true, 1, yes and on of a truth value are true, all others false.
-/

namespace CommitPolicy

open Text

/-- Environment variables with their values. -/
abbrev Environment := List (String × String)

/-- How the value of a variable is written. -/
inductive VariableForm where
  | list
  | bool
  | plain
  | sanitized
  deriving DecidableEq, Repr

/-- The variables, with the field that each sets and the form of its value. -/
def settingVariables : List (String × String × VariableForm) :=
  [("FAST_CC_TYPES", "types", .list),
    ("FAST_CC_SCOPES", "scopes", .list),
    ("FAST_CC_SCOPE_REQUIRED", "scope_required", .bool),
    ("FAST_CC_MAX_SUBJECT_LENGTH", "max_subject_length", .plain),
    ("FAST_CC_ALLOW_BREAKING_CHANGES", "allow_breaking_changes", .bool),
    ("FAST_CC_REQUIRE_JIRA_TICKET", "require_jira_ticket", .bool),
    ("FAST_CC_REQUIRE_TICKET_REF", "require_ticket_ref", .bool),
    ("FAST_CC_JIRA_TICKET_PATTERN", "jira_ticket_pattern", .plain),
    ("FAST_CC_JIRA_PROJECTS", "jira_projects", .list),
    ("FAST_CC_ALWAYS_LOG", "always_log", .bool),
    ("FAST_CC_LOG_FILE", "log_file", .sanitized)]

/-- The setting that a variable of the given form stands for. -/
def VariableForm.read (form : VariableForm) (s : String) : Value :=
  match form with
  | list =>
    .list ((((splitAt ',' s.toList).map trim).filter fun t => !t.isEmpty).map fun t =>
      .text (String.ofList t))
  | bool => .bool (["true", "1", "yes", "on"].contains (toLower s))
  | plain => .text s
  | sanitized => .text (sanitize s)

/-- The settings of an environment. -/
def environmentEntries (env : Environment) : List (Value × Value) :=
  settingVariables.filterMap fun (key, field, form) =>
    (env.lookup key).map fun s => (.text field, form.read s)

/-- Whether a key of a document can be the name of a setting: a text other than one reserved
word. -/
def isSettingName : Value → Bool
  | .text s => s != "self"
  | _ => false

namespace Config

/-- The configuration of a document and an environment; the document wins.  `origin` names the
document in errors. -/
def build (env : Environment) (origin : String) (entries : List (Value × Value)) :
    Except Failure Config :=
  if !entries.all fun e => isSettingName e.1 then .error .badSettingName
  else
    match ofEntries (entries ++ environmentEntries env) with
    | .ok c => .ok c
    | .error problems => .error (.config (.badSettings origin problems))

/-- The entries with the log file sanitized, if it is a text. -/
def sanitizeEntries (entries : List (Value × Value)) : List (Value × Value) :=
  entries.map fun
    | (.text "log_file", .text s) => (.text "log_file", .text (sanitize s))
    | e => e

/-- The configuration of a document read from `path`. -/
def ofDocument (env : Environment) (path : String) : Value → Except Failure Config
  | .map entries => build env path (sanitizeEntries entries)
  | _ => .error (.config (.notMapping path))

/-- The preset for teams that track their work in tickets: fixed scopes, and a ticket is needed. -/
def enterprise (env : Environment) : Except Failure Config :=
  let entries : List (Value × Value) :=
    [(.text "scopes", .list (enterpriseScopes.map .text)),
      (.text "require_jira_ticket", .bool true)]
  match ofEntries (entries ++ environmentEntries env) with
  | .ok c => .ok c
  | .error problems => .error (.record (problems.map (·.text)))

/-- The configuration of an environment alone. -/
def ofEnvironment (env : Environment) : Except Failure Config :=
  match ofEntries (environmentEntries env) with
  | .ok c => .ok c
  | .error problems => .error (.record (problems.map (·.text)))

end Config

end CommitPolicy
