/-!
# Configuration

The options that a validation policy is made from.  A configuration is plain data: it need not make
sense as a policy.
-/

namespace CommitPolicy

/-- A rule of the team: a message must match the pattern. -/
structure CustomRule where
  name : String
  pattern : String
  message : String
  deriving DecidableEq, Repr

/-- The options of a validation policy. -/
structure Config where
  types : List String
  scopes : List String
  scopeRequired : Bool
  maxSubjectLength : Int
  allowBreakingChanges : Bool
  requireJiraTicket : Bool
  requireTicketRef : Bool
  jiraTicketPattern : Option String
  jiraProjects : List String
  customRules : List CustomRule
  ignorePatterns : List String
  alwaysLog : Bool
  logFile : Option String
  deriving DecidableEq, Repr

namespace Config

/-- The commit types that are allowed unless a configuration says otherwise. -/
def defaultTypes : List String :=
  ["feat", "fix", "docs", "style", "refactor", "test", "chore", "perf", "ci", "build", "revert"]

/-- The configuration in which nothing is set. -/
def default : Config where
  types := defaultTypes
  scopes := []
  scopeRequired := false
  maxSubjectLength := 72
  allowBreakingChanges := true
  requireJiraTicket := false
  requireTicketRef := false
  jiraTicketPattern := none
  jiraProjects := []
  customRules := []
  ignorePatterns := []
  alwaysLog := false
  logFile := none

/-- The scopes of the preset for teams that track their work in tickets. -/
def enterpriseScopes : List String :=
  ["api", "web", "cli", "db", "auth", "core", "mw", "net", "sec", "iam", "app"]

end Config

end CommitPolicy
