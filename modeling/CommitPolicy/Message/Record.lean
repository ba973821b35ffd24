import CommitPolicy.Config.Coerce
import CommitPolicy.Message.Commit

/-!
# Commits from records

A commit that is put together from named fields instead of being read from a message.  Fields are
lenient as those of a configuration are, and a required field has to be there.
-/

namespace CommitPolicy

open Text

/-- What is read for a field of a record, or what is wrong with it. -/
abbrev RecordField (α : Type) := Except (List String) α

namespace RecordField

/-- The problems of a field. -/
def problems {α : Type} : RecordField α → List String
  | .ok _ => []
  | .error ps => ps

/-- One value, or the one problem with it. -/
def one {α : Type} : Except String α → RecordField α
  | .ok a => .ok a
  | .error text => .error [text]

/-- All values, or all problems. -/
def all {α : Type} : List (RecordField α) → RecordField (List α)
  | [] => .ok []
  | f :: rest =>
    match f, all rest with
    | .ok a, .ok as => .ok (a :: as)
    | f, rest => .error (f.problems ++ rest.problems)

/-- The field of the name `key`, or the default. -/
def get {α : Type} (entries : List (Value × Value)) (key : String) (default : RecordField α)
    (read : Value → RecordField α) : RecordField α :=
  match Value.lookup key entries with
  | some v => read v
  | none => default

/-- A field that is missing and must not be. -/
def required {α : Type} : RecordField α := .error ["Field required"]

/-- A text. -/
def text (v : Value) : RecordField String := one v.toText

/-- A truth value. -/
def bool (v : Value) : RecordField Bool := one v.toBool

/-- A text or nothing. -/
def optionalText : Value → RecordField (Option String)
  | .null => .ok none
  | v => (text v).map some

/-- A list of texts; it is kept as a tuple, and a value that is no list is refused as one. -/
def texts (v : Value) : RecordField (List String) :=
  match v.toItems with
  | .ok items => all (items.map text)
  | .error _ => .error ["Input should be a valid tuple"]

/-- A kind of ticket reference. -/
def kind : Value → RecordField TicketKind
  | .text "JIRA" => .ok .jira
  | .text "GITHUB" => .ok .github
  | .text "GENERIC" => .ok .generic
  | _ => .error ["Input should be 'JIRA', 'GITHUB' or 'GENERIC'"]

/-- A footer. -/
def footer (entries : List (Value × Value)) : RecordField Footer :=
  let key := get entries "key" required text
  let value := get entries "value" required text
  let separator := get entries "separator" (.ok ": ") text
  match key, value, separator with
  | .ok k, .ok v, .ok s => .ok ⟨k, v, s⟩
  | _, _, _ => .error (key.problems ++ value.problems ++ separator.problems)

/-- A ticket reference. -/
def ticket (entries : List (Value × Value)) : RecordField TicketRef :=
  let k := get entries "kind" required kind
  let id := get entries "id" required text
  let raw := get entries "raw" required text
  match k, id, raw with
  | .ok k, .ok i, .ok r => .ok ⟨k, i, r⟩
  | _, _, _ => .error (k.problems ++ id.problems ++ raw.problems)

/-- The first items that can be read, one after the other. -/
def inTurn {α : Type} (read : List (Value × Value) → RecordField α) :
    List Value → RecordField (List α)
  | [] => .ok []
  | .map entries :: rest => do
    let a ← read entries
    .ok (a :: (← inTurn read rest))
  | _ :: rest => inTurn read rest

end RecordField

namespace Commit

/-- The items of the list of the name `key`, none if there is no such list. -/
def recordItems (entries : List (Value × Value)) (key : String) : List Value :=
  match Value.lookup key entries with
  | some (.list items) => items
  | _ => []

/-- The commit of a record.  The footers are read first, then the ticket references, then the
rest; the first of the three that fails is reported. -/
def ofRecord (entries : List (Value × Value)) : RecordField Commit := do
  let footers ← RecordField.inTurn RecordField.footer (recordItems entries "footers")
  let refs ← RecordField.inTurn RecordField.ticket (recordItems entries "ticket_refs")
  let type := RecordField.get entries "type" .required RecordField.text
  let scope := RecordField.get entries "scope" (.ok none) RecordField.optionalText
  let breaking := RecordField.get entries "breaking" (.ok false) RecordField.bool
  let marker := RecordField.get entries "breaking_marker" (.ok false) RecordField.bool
  let subject := RecordField.get entries "subject" .required RecordField.text
  let body := RecordField.get entries "body" (.ok none) RecordField.optionalText
  let malformed := RecordField.get entries "malformed_footers" (.ok []) RecordField.texts
  let build : RecordField Commit := do
    .ok {
      type := ← type
      scope := ← scope
      breaking := ← breaking
      breakingMarker := ← marker
      subject := ← subject
      body := ← body
      footers := footers
      malformedFooters := ← malformed
      ticketRefs := refs
    }
  match build with
  | .ok c => .ok c
  | .error _ =>
    .error (type.problems ++ scope.problems ++ breaking.problems ++ marker.problems
      ++ subject.problems ++ body.problems ++ malformed.problems)

end Commit

end CommitPolicy
