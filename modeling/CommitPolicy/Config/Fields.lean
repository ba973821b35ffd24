import CommitPolicy.Config.Basic
import CommitPolicy.Config.Coerce
import CommitPolicy.Config.Error

/-!
# Settings of a configuration

`Config.ofEntries` makes a configuration from the entries of a document: each field is read from the
entry of its name, or has its default if there is none.  All fields are read, and what is wrong with
them is reported together, in the order of the fields.
-/

namespace CommitPolicy

/-- What is read for a field: a value, or everything that is wrong with it. -/
abbrev Field (α : Type) := Except (List SettingError) α

namespace Field

/-- A value at the end of a path. -/
def at_ {α : Type} (path : List String) : Except String α → Field α
  | .ok a => .ok a
  | .error text => .error [⟨path, text⟩]

/-- The problems of a field. -/
def problems {α : Type} : Field α → List SettingError
  | .ok _ => []
  | .error ps => ps

/-- The field of the name `key`, read by `read` with the path to it, or the default. -/
def get {α : Type} (entries : List (Value × Value)) (key : String) (default : α)
    (read : List String → Value → Field α) : Field α :=
  match Value.lookup key entries with
  | some v => read [key] v
  | none => .ok default

/-- All values of a list of fields, or all problems. -/
def all {α : Type} : List (Field α) → Field (List α)
  | [] => .ok []
  | f :: rest =>
    match f, all rest with
    | .ok a, .ok as => .ok (a :: as)
    | f, rest => .error (f.problems ++ rest.problems)

/-- The items of a value, each read by `read` with the path to it. -/
def items {α : Type} (read : List String → Value → Field α) (path : List String) (v : Value) :
    Field (List α) :=
  match v.toItems with
  | .error text => .error [⟨path, text⟩]
  | .ok vs => all (vs.zipIdx.map fun (v, i) => read (path ++ [toString i]) v)

/-- A text. -/
def text (path : List String) (v : Value) : Field String := at_ path v.toText

/-- A truth value. -/
def bool (path : List String) (v : Value) : Field Bool := at_ path v.toBool

/-- An integer. -/
def integer (path : List String) (v : Value) : Field Int := at_ path v.toInteger

/-- A text or nothing. -/
def optionalText (path : List String) : Value → Field (Option String)
  | .null => .ok none
  | v => (text path v).map some

/-- A list of texts. -/
def texts : List String → Value → Field (List String) := items text

/-- A rule of the team. -/
def customRule (path : List String) : Value → Field CustomRule
  | .map entries =>
    let field (key : String) : Field String :=
      get entries key "" fun _ v => text (path ++ [key]) v
    match field "name", field "pattern", field "message" with
    | .ok name, .ok pattern, .ok message => .ok ⟨name, pattern, message⟩
    | name, pattern, message => .error (name.problems ++ pattern.problems ++ message.problems)
  | _ => .error [⟨path, "Input should be a valid dictionary or instance of CustomRule"⟩]

end Field

namespace Config

/-- The configuration of the entries of a document. -/
def ofEntries (entries : List (Value × Value)) : Field Config :=
  let types := Field.get entries "types" default.types Field.texts
  let scopes := Field.get entries "scopes" default.scopes Field.texts
  let scopeRequired := Field.get entries "scope_required" default.scopeRequired Field.bool
  let maxSubjectLength :=
    Field.get entries "max_subject_length" default.maxSubjectLength Field.integer
  let allowBreakingChanges :=
    Field.get entries "allow_breaking_changes" default.allowBreakingChanges Field.bool
  let requireJiraTicket :=
    Field.get entries "require_jira_ticket" default.requireJiraTicket Field.bool
  let requireTicketRef :=
    Field.get entries "require_ticket_ref" default.requireTicketRef Field.bool
  let jiraTicketPattern :=
    Field.get entries "jira_ticket_pattern" default.jiraTicketPattern Field.optionalText
  let jiraProjects := Field.get entries "jira_projects" default.jiraProjects Field.texts
  let customRules :=
    Field.get entries "custom_rules" default.customRules (Field.items Field.customRule)
  let ignorePatterns := Field.get entries "ignore_patterns" default.ignorePatterns Field.texts
  let alwaysLog := Field.get entries "always_log" default.alwaysLog Field.bool
  let logFile := Field.get entries "log_file" default.logFile Field.optionalText
  let build : Field Config := do
    .ok {
      types := ← types
      scopes := ← scopes
      scopeRequired := ← scopeRequired
      maxSubjectLength := ← maxSubjectLength
      allowBreakingChanges := ← allowBreakingChanges
      requireJiraTicket := ← requireJiraTicket
      requireTicketRef := ← requireTicketRef
      jiraTicketPattern := ← jiraTicketPattern
      jiraProjects := ← jiraProjects
      customRules := ← customRules
      ignorePatterns := ← ignorePatterns
      alwaysLog := ← alwaysLog
      logFile := ← logFile
    }
  match build with
  | .ok c => .ok c
  | .error _ =>
    .error (types.problems ++ scopes.problems ++ scopeRequired.problems
      ++ maxSubjectLength.problems ++ allowBreakingChanges.problems
      ++ requireJiraTicket.problems ++ requireTicketRef.problems ++ jiraTicketPattern.problems
      ++ jiraProjects.problems ++ customRules.problems ++ ignorePatterns.problems
      ++ alwaysLog.problems ++ logFile.problems)

end Config

end CommitPolicy
