import CommitPolicy.Message.Footer
import CommitPolicy.Message.Ticket

/-!
# Commits

A commit message in its parts, and the text that writes the parts in their canonical layout: the
header, then after a blank line the body, then after a blank line the footers.
-/

namespace CommitPolicy

/-- The parts of a commit message.  `breakingMarker` records the exclamation mark of the header,
`breaking` any declaration of a breaking change. -/
structure Commit where
  type : String
  scope : Option String
  breaking : Bool
  breakingMarker : Bool
  subject : String
  body : Option String
  footers : List Footer
  malformedFooters : List String
  ticketRefs : List TicketRef
  deriving DecidableEq, Repr

namespace Commit

/-- The header line. -/
def header (c : Commit) : String :=
  c.type
    ++ (match c.scope with
      | some scope => "(" ++ scope ++ ")"
      | none => "")
    ++ (if c.breakingMarker then "!" else "")
    ++ ": " ++ c.subject

/-- The body, unless it is missing or empty, as a list of at most one block. -/
def bodyBlock (c : Commit) : List String :=
  match c.body with
  | some body => if body.isEmpty then [] else [body]
  | none => []

/-- The footers, unless there are none, as a list of at most one block. -/
def footerBlock (c : Commit) : List String :=
  if c.footers.isEmpty then [] else [Text.joinWith "\n" (c.footers.map Footer.format)]

/-- The message in its canonical layout. -/
def format (c : Commit) : String :=
  Text.joinWith "\n\n" (c.header :: c.bodyBlock ++ c.footerBlock)

/-- The values of the footers whose key compares equal to `key`, in order. -/
def footerValues (c : Commit) (key : String) : List String :=
  (c.footers.filter fun f => f.normalizedKey == Footer.normalizeKey key).map (·.value)

/-- Whether the message refers to a ticket. -/
def hasTicketRefs (c : Commit) : Bool := !c.ticketRefs.isEmpty

/-- The references by a bare key. -/
def jiraTickets (c : Commit) : List TicketRef := c.ticketRefs.filter (·.kind == .jira)

end Commit

end CommitPolicy
