import CommitPolicy.Message.Commit

/-!
# Reading a commit message

`Header.ofLine?` reads the header grammar `type(scope)!: subject`, and `Commit.parse` reads a whole
message: the header, a blank line, the body, and the footers at the end of the last block.  Footers
may follow the header directly when nothing else does.
-/

namespace CommitPolicy

open Text

/-- Why a text is no commit message. -/
inductive ParseError where
  | emptyMessage
  | malformedHeader (header : String)
  | missingBodySeparator
  deriving DecidableEq, Repr

namespace ParseError

/-- The line at fault, counted from one in the text without leading blank lines. -/
def line? : ParseError → Option Nat
  | .emptyMessage => none
  | .malformedHeader _ => some 1
  | .missingBodySeparator => some 2

/-- What is wrong. -/
def description : ParseError → String
  | .emptyMessage => "commit message is empty"
  | .malformedHeader header =>
    "header must follow 'type(scope): subject' (lowercase type, optional scope, colon and space), "
      ++ "got '" ++ header ++ "'"
  | .missingBodySeparator => "the header must be followed by a blank line before the body"

/-- What is wrong, and where. -/
def message (e : ParseError) : String :=
  match e.line? with
  | some n => e.description ++ " (line " ++ toString n ++ ")"
  | none => e.description

end ParseError

/-- The parts of a header line. -/
structure Header where
  type : List Char
  scope : Option (List Char)
  marker : Bool
  subject : List Char
  deriving DecidableEq, Repr

namespace Header

/-- A character of a commit type. -/
def isTypeChar (c : Char) : Bool := 'a' ≤ c && c ≤ 'z'

/-- Reads an optional scope in parentheses and gives the rest.  An open parenthesis has to be
closed, and a scope is not empty. -/
def scope? : List Char → Option (Option (List Char) × List Char)
  | '(' :: rest =>
    match rest.takeWhile (· != ')'), rest.dropWhile (· != ')') with
    | c :: scope, ')' :: tail => some (some (c :: scope), tail)
    | _, _ => none
  | rest => some (none, rest)

/-- Reads an optional exclamation mark and gives the rest. -/
def splitMarker : List Char → Bool × List Char
  | '!' :: rest => (true, rest)
  | rest => (false, rest)

/-- Reads a colon, one blank character and a subject that is not blank. -/
def subject? : List Char → Option (List Char)
  | ':' :: c :: subject => if isBlank c && !isBlankLine subject then some subject else none
  | _ => none

/-- Reads a header line. -/
def ofLine? (line : List Char) : Option Header :=
  let type := line.takeWhile isTypeChar
  if type.isEmpty then none
  else
    match scope? (line.dropWhile isTypeChar) with
    | none => none
    | some (scope, rest) =>
      (subject? (splitMarker rest).2).map fun subject =>
        ⟨type, scope, (splitMarker rest).1, subject⟩

end Header

namespace Commit

/-- The body lines and the footers among the lines after the header. -/
def splitBody : List (List Char) → Except ParseError (List (List Char) × List Footer)
  | [] => .ok ([], [])
  | first :: rest =>
    if isBlankLine first then
      let (above, footers) := Footer.splitTrailing rest
      .ok (trimBlankLines above, footers)
    else
      match (first :: rest).mapM Footer.ofLine? with
      | some footers => .ok ([], footers)
      | none => .error .missingBodySeparator

/-- The commit of a header, body lines and footers; `refs` are the ticket references. -/
def assemble (h : Header) (body : List (List Char)) (footers : List Footer)
    (refs : List TicketRef) : Commit where
  type := String.ofList h.type
  scope := h.scope.map String.ofList
  breaking := h.marker || footers.any Footer.isBreaking
  breakingMarker := h.marker
  subject := String.ofList h.subject
  body := if body.isEmpty then none else some (String.ofList (joinLines body))
  footers := footers
  malformedFooters := (Footer.malformedLines (lastParagraph body)).map String.ofList
  ticketRefs := refs

/-- The lines of a message, without the blank lines at both ends. -/
def messageLines (raw : String) : List (List Char) :=
  trimBlankLines (splitLines (unixNewlines raw.toList))

/-- Reads a commit message. -/
def parse (raw : String) : Except ParseError Commit :=
  match messageLines raw with
  | [] => .error .emptyMessage
  | first :: rest =>
    match Header.ofLine? first with
    | none => .error (.malformedHeader (String.ofList first))
    | some h =>
      match splitBody rest with
      | .error e => .error e
      | .ok (body, footers) => .ok (assemble h body footers (TicketRef.extract raw))

end Commit

end CommitPolicy
