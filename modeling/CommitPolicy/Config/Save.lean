import CommitPolicy.Config.LogFile
import CommitPolicy.Files.Tree
import CommitPolicy.Text.Utf8
import CommitPolicy.Yaml.Writer

/-!
# Saving a configuration

A configuration is saved as a document of all its fields, without those that have no value and
without a log file outside the working directory.
-/

namespace CommitPolicy

/-- The entries of a rule of the team. -/
def CustomRule.entries (r : CustomRule) : List (Value × Value) :=
  [(.text "name", .text r.name), (.text "pattern", .text r.pattern),
    (.text "message", .text r.message)]

namespace Config

/-- Whether a log file is saved: there is no path, or it stays inside the working directory. -/
def keepsLogFile (s : String) : Bool := s.isEmpty || isSafePath s

/-- A field with a text, if there is one. -/
def textEntry (name : String) (s : Option String) : List (Value × Value) :=
  s.toList.map fun s => (.text name, .text s)

/-- The entries that a configuration is saved as. -/
def entries (c : Config) : List (Value × Value) :=
  let texts (items : List String) : Value := .list (items.map .text)
  [(.text "types", texts c.types),
    (.text "scopes", texts c.scopes),
    (.text "scope_required", .bool c.scopeRequired),
    (.text "max_subject_length", .int c.maxSubjectLength),
    (.text "allow_breaking_changes", .bool c.allowBreakingChanges),
    (.text "require_jira_ticket", .bool c.requireJiraTicket),
    (.text "require_ticket_ref", .bool c.requireTicketRef)]
    ++ textEntry "jira_ticket_pattern" c.jiraTicketPattern
    ++ [(.text "jira_projects", texts c.jiraProjects),
      (.text "custom_rules", .list (c.customRules.map fun r => .map r.entries)),
      (.text "ignore_patterns", texts c.ignorePatterns),
      (.text "always_log", .bool c.alwaysLog)]
    ++ textEntry "log_file" (c.logFile.filter keepsLogFile)

/-- The files after a configuration was saved in a file; the directories that lead to it are made. -/
def save (c : Config) (files : FileTree) (p : Path) : Except Failure FileTree := do
  let files ← files.makeParents p
  files.write p (Text.encode (Yaml.writeMapping c.entries))

end Config

end CommitPolicy
