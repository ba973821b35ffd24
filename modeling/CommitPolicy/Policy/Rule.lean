import CommitPolicy.Message.Commit
import CommitPolicy.Pattern.Basic
import CommitPolicy.Policy.Verdict

/-!
# Rules

A rule looks at a commit and at the text of its message and reports at most one violation.  Rules do
not see each other's results.  The kinds of rules are listed in the order in which violations are
reported.
-/

namespace CommitPolicy

open Text

/-- The kinds of rules, in reporting order.  Violations of the format and of the deadline are
reported without a rule of their own. -/
inductive RuleKind where
  | format
  | type
  | scopeRequired
  | scope
  | subjectLength
  | breakingNotAllowed
  | footerFormat
  | jiraTicket
  | ticketRef
  | custom
  | timeout
  deriving DecidableEq, Repr

namespace RuleKind

/-- All kinds, in reporting order. -/
def all : List RuleKind :=
  [format, type, scopeRequired, scope, subjectLength, breakingNotAllowed, footerFormat, jiraTicket,
    ticketRef, custom, timeout]

/-- The place of a kind in the reporting order. -/
def priority (k : RuleKind) : Nat := all.idxOf k

/-- The name under which violations of a kind are reported. -/
def name : RuleKind → String
  | format => "format"
  | type => "type"
  | scopeRequired => "scope-required"
  | scope => "scope"
  | subjectLength => "subject-length"
  | breakingNotAllowed => "breaking-not-allowed"
  | footerFormat => "footer-format"
  | jiraTicket => "jira-ticket"
  | ticketRef => "ticket-ref"
  | custom => "custom"
  | timeout => "timeout"

end RuleKind

/-- What the rule on JIRA tickets asks for. -/
structure TicketPolicy where
  /-- At least one acceptable reference is needed; otherwise all references have to be
  acceptable. -/
  required : Bool
  pattern : Option Pattern
  /-- The accepted project keys; any project if there are none. -/
  projects : List String

namespace TicketPolicy

/-- Whether the identifier of a reference matches the pattern. -/
def matchesPattern (p : TicketPolicy) (r : TicketRef) : Bool :=
  match p.pattern with
  | some pattern => pattern.search r.id
  | none => true

/-- Whether the project of a reference is accepted. -/
def acceptsProject (p : TicketPolicy) (r : TicketRef) : Bool :=
  p.projects.isEmpty || (r.project.elim false p.projects.contains)

/-- Whether a reference is acceptable. -/
def accepts (p : TicketPolicy) (r : TicketRef) : Bool := p.matchesPattern r && p.acceptsProject r

/-- The references that the policy looks at: bare and bracketed keys. -/
def candidates (refs : List TicketRef) : List TicketRef := refs.filter (·.kind != .github)

/-- Why a reference is not acceptable. -/
def objection (p : TicketPolicy) (r : TicketRef) : String :=
  if p.matchesPattern r then
    "JIRA project '" ++ r.project.getD "None" ++ "' not in allowed projects: "
      ++ joinWith ", " p.projects
  else
    "JIRA ticket '" ++ r.id ++ "' does not match pattern '"
      ++ (p.pattern.elim "" (·.source)) ++ "'"

/-- What is missing when no reference is acceptable. -/
def requirement (p : TicketPolicy) (rejected : List TicketRef) : String :=
  "a JIRA ticket reference is required (e.g. ABC-123)"
    ++ (if p.projects.isEmpty then "" else " from projects: " ++ joinWith ", " p.projects)
    ++ (if rejected.isEmpty then "" else "; found " ++ joinWith ", " (rejected.map (·.id)))

/-- Why the references break the policy, if they do. -/
def check (p : TicketPolicy) (refs : List TicketRef) : Option String :=
  let cs := candidates refs
  let rejected := cs.filter fun r => !p.accepts r
  if p.required then
    if rejected.length < cs.length then none else some (p.requirement rejected)
  else if rejected.isEmpty then none
  else some (joinWith "; " (rejected.map p.objection))

end TicketPolicy

/-- A rule of a policy. -/
inductive Rule where
  | type (allowed : List String)
  | scopeRequired
  | scope (allowed : List String)
  | subjectLength (max : Int)
  | breakingNotAllowed
  | footerFormat
  | jiraTicket (policy : TicketPolicy)
  | ticketRef
  /-- The message has to match the pattern; an empty text stands for a standard one. -/
  | custom (name : String) (pattern : Pattern) (message : String)

namespace Rule

/-- The kind of a rule. -/
def kind : Rule → RuleKind
  | type _ => .type
  | scopeRequired => .scopeRequired
  | scope _ => .scope
  | subjectLength _ => .subjectLength
  | breakingNotAllowed => .breakingNotAllowed
  | footerFormat => .footerFormat
  | jiraTicket _ => .jiraTicket
  | ticketRef => .ticketRef
  | custom _ _ _ => .custom

/-- The name under which violations of a rule are reported. -/
def name (r : Rule) : String :=
  match r with
  | custom name _ _ => if name.isEmpty then RuleKind.custom.name else name
  | _ => r.kind.name

/-- Why a commit breaks a rule, if it does; `message` is the text that the commit was read from. -/
def objection (c : Commit) (message : String) : Rule → Option String
  | type allowed =>
    if allowed.contains c.type then none
    else some ("type '" ++ c.type ++ "' not in allowed types: " ++ joinWith ", " allowed)
  | scopeRequired =>
    if c.scope.isSome then none
    else some ("a scope is required, e.g. '" ++ c.type ++ "(api): " ++ c.subject ++ "'")
  | scope allowed =>
    match c.scope with
    | none => none
    | some s =>
      if allowed.contains s then none
      else some ("scope '" ++ s ++ "' not in allowed scopes: " ++ joinWith ", " allowed)
  | subjectLength max =>
    if (c.subject.length : Int) ≤ max then none
    else
      some ("subject is " ++ toString c.subject.length ++ " characters long, maximum is "
        ++ toString max ++ "; move details to the body")
  | breakingNotAllowed =>
    if c.breaking then
      some ("breaking changes are not allowed, but the message declares one via "
        ++ (if c.breakingMarker then "'!' in the header" else "a BREAKING CHANGE footer"))
    else none
  | footerFormat =>
    if c.malformedFooters.isEmpty then none
    else
      some ("malformed footer line(s) "
        ++ joinWith ", " (c.malformedFooters.map fun line => "'" ++ line ++ "'")
        ++ "; expected 'Token: value' or 'Token #123'")
  | jiraTicket policy => policy.check c.ticketRefs
  | ticketRef =>
    if c.hasTicketRefs then none
    else some "a ticket reference is required (e.g. ABC-123, [ABC-123], #123 or GH-456)"
  | custom _ pattern text =>
    if pattern.search message then none
    else
      some (if text.isEmpty then
        "message does not match required pattern '" ++ pattern.source ++ "'" else text)

/-- The violation of a rule by a commit, if there is one. -/
def check (r : Rule) (c : Commit) (message : String) : Option Violation :=
  (r.objection c message).map fun text => ⟨r.name, text⟩

end Rule

end CommitPolicy
