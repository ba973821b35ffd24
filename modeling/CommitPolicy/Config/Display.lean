import CommitPolicy.Config.Basic
import CommitPolicy.Text.Lines

/-!
# Showing a configuration

The fields of a configuration by name, each as one line of text.
-/

namespace CommitPolicy.Config

open Text

/-- A list of texts; a hyphen stands for the empty list. -/
def listText (items : List String) : String :=
  if items.isEmpty then "-" else joinWith ", " items

/-- A truth value. -/
def boolText (b : Bool) : String := if b then "True" else "False"

/-- A text that may be missing. -/
def optionText (s : Option String) : String := s.getD "None"

/-- The fields with their values as text, in order. -/
def display (c : Config) : List (String × String) :=
  [("types", listText c.types),
    ("scopes", listText c.scopes),
    ("scope_required", boolText c.scopeRequired),
    ("max_subject_length", toString c.maxSubjectLength),
    ("allow_breaking_changes", boolText c.allowBreakingChanges),
    ("require_jira_ticket", boolText c.requireJiraTicket),
    ("require_ticket_ref", boolText c.requireTicketRef),
    ("jira_ticket_pattern", optionText c.jiraTicketPattern),
    ("jira_projects", listText c.jiraProjects),
    ("custom_rules", listText (c.customRules.map (·.name))),
    ("ignore_patterns", listText c.ignorePatterns),
    ("always_log", boolText c.alwaysLog),
    ("log_file", optionText c.logFile)]

end CommitPolicy.Config
