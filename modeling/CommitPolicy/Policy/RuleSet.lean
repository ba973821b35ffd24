import CommitPolicy.Config.Basic
import CommitPolicy.Config.Error
import CommitPolicy.Failure
import CommitPolicy.Policy.Rule

/-!
# Rule sets

`RuleSet.ofConfig` turns a configuration into a policy: it checks the options, reads all patterns
and lists the rules in reporting order.  The first fault in the order types, subject length, ticket
pattern, ignore patterns, custom rules is the one that is reported.
-/

namespace CommitPolicy

open Text

/-- A policy: the options it was made from, with entries trimmed and listed once, and the rules in
reporting order. -/
structure RuleSet where
  types : List String
  scopes : List String
  scopeRequired : Bool
  maxSubjectLength : Int
  allowBreakingChanges : Bool
  requireJiraTicket : Bool
  requireTicketRef : Bool
  jiraTicketPattern : Option Pattern
  jiraProjects : List String
  ignorePatterns : List Pattern
  rules : List Rule

/-- Drops an entry that occurred before; `seen` holds those that did. -/
def firstOfEach (seen : List String) : List String → List String
  | [] => []
  | s :: rest =>
    if seen.contains s then firstOfEach seen rest else s :: firstOfEach (s :: seen) rest

/-- The entries without white space at the ends, those that are blank left out, each one once. -/
def cleanEntries (entries : List String) : List String :=
  firstOfEach [] ((entries.map strip).filter fun s => !s.isEmpty)

variable [ReadingLimits]

/-- Reads a pattern that belongs to `owner`. -/
def compileFor (owner source : String) : Except Failure Pattern :=
  match Pattern.compileWithin source with
  | .ok p => .ok p
  | .error (.fault f position) =>
    .error (.config (.badPattern owner source (Pattern.faultText source f position)))
  | .error .repetitionTooLarge => .error .overflow
  | .error .codePointTooLarge => .error .overflow
  | .error (.tooManyDigits n) => .error (.argument (Text.tooManyDigitsText n))
  | .error .clashingModes => .error (.argument "ASCII and UNICODE flags are incompatible")
  | .error .tooDeep => .error .tooDeep

/-- Reads the ignore patterns, the first one having the number `index`. -/
def compileIgnored (index : Nat) : List String → Except Failure (List Pattern)
  | [] => .ok []
  | source :: rest => do
    let p ← compileFor ("ignore_patterns[" ++ toString index ++ "]") source
    let ps ← compileIgnored (index + 1) rest
    .ok (p :: ps)

/-- Reads the custom rules, the first one having the number `index`. -/
def compileCustom (index : Nat) : List CustomRule → Except Failure (List Rule)
  | [] => .ok []
  | r :: rest => do
    if r.name.isEmpty then .error (.config (.unnamedRule index))
    else if r.pattern.isEmpty then .error (.config (.missingPattern r.name))
    else
      let p ← compileFor r.name r.pattern
      let rs ← compileCustom (index + 1) rest
      .ok (.custom r.name p r.message :: rs)

/-- Reads the ticket pattern, unless it is missing or empty. -/
def compileTicketPattern : Option String → Except Failure (Option Pattern)
  | none => .ok none
  | some source =>
    if source.isEmpty then .ok none
    else (compileFor "jira_ticket_pattern" source).map some

namespace RuleSet

/-- The rules of a configuration whose entries are clean and whose patterns have been read. -/
def rulesOf (c : Config) (types scopes projects : List String) (ticket : Option Pattern)
    (custom : List Rule) : List Rule :=
  [.type types]
    ++ (if c.scopeRequired then [.scopeRequired] else [])
    ++ (if scopes.isEmpty then [] else [.scope scopes])
    ++ [.subjectLength c.maxSubjectLength]
    ++ (if c.allowBreakingChanges then [] else [.breakingNotAllowed])
    ++ [.footerFormat]
    ++ (if c.requireJiraTicket || !projects.isEmpty || ticket.isSome then
        [.jiraTicket ⟨c.requireJiraTicket, ticket, projects⟩] else [])
    ++ (if c.requireTicketRef then [.ticketRef] else [])
    ++ custom

/-- The policy of a configuration. -/
def ofConfig (c : Config) : Except Failure RuleSet := do
  let types := cleanEntries c.types
  if types.isEmpty then .error (.config .noTypes)
  else if c.maxSubjectLength ≤ 0 then .error (.config (.badSubjectLength c.maxSubjectLength))
  else
    let scopes := cleanEntries c.scopes
    let projects := cleanEntries c.jiraProjects
    let ticket ← compileTicketPattern c.jiraTicketPattern
    let ignored ← compileIgnored 0 c.ignorePatterns
    let custom ← compileCustom 0 c.customRules
    .ok {
      types := types
      scopes := scopes
      scopeRequired := c.scopeRequired
      maxSubjectLength := c.maxSubjectLength
      allowBreakingChanges := c.allowBreakingChanges
      requireJiraTicket := c.requireJiraTicket
      requireTicketRef := c.requireTicketRef
      jiraTicketPattern := ticket
      jiraProjects := projects
      ignorePatterns := ignored
      rules := rulesOf c types scopes projects ticket custom
    }

/-- Whether any scope is accepted. -/
def scopesUnrestricted (rs : RuleSet) : Bool := rs.scopes.isEmpty

/-- The first ignore pattern that matches a message. -/
def ignoredBy (rs : RuleSet) (message : String) : Option Pattern :=
  rs.ignorePatterns.find? fun p => p.search message

/-- Rules paired with their sort keys, the first one being rule number `index`. -/
def keyed (index : Nat) : List Rule → List ((Nat × Nat) × Rule)
  | [] => []
  | r :: rest => ((r.kind.priority, index), r) :: keyed (index + 1) rest

/-- The rules paired with the keys that fix the order of their violations. -/
def orderedRules (rs : RuleSet) : List ((Nat × Nat) × Rule) := keyed 0 rs.rules

end RuleSet

end CommitPolicy
