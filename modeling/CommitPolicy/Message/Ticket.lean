import CommitPolicy.Text.Lines
import CommitPolicy.Text.Word

/-!
# Ticket references

Three forms of reference are found anywhere in a message: `#12` and `GH-12`, the bracketed
`[ABC-12]`, and the bare key `ABC-12`.  A form is a function that reads one reference at a place,
given the character before that place; `occurrences` collects what it reads at every place in
order.  No two references of one form overlap, so none is missed and none is counted twice.
-/

namespace CommitPolicy

open Text

/-- The forms of ticket reference. -/
inductive TicketKind where
  | jira
  | github
  | generic
  deriving DecidableEq, Repr

/-- The name under which a kind is reported. -/
def TicketKind.name : TicketKind → String
  | .jira => "JIRA"
  | .github => "GITHUB"
  | .generic => "GENERIC"

/-- A ticket reference: the identifier, and the text that was found. -/
structure TicketRef where
  kind : TicketKind
  id : String
  raw : String
  deriving DecidableEq, Repr

namespace TicketRef

/-- What stands before the last hyphen, if there is one. -/
def beforeLastHyphen (s : List Char) : Option (List Char) :=
  match s.reverse.dropWhile (· != '-') with
  | [] => none
  | _ :: key => some key.reverse

/-- The project key of an identifier such as `ABC-12`. -/
def project (r : TicketRef) : Option String :=
  match r.kind with
  | .github => none
  | _ => (beforeLastHyphen r.id.toList).map String.ofList

/-- Whether no word character stands before the place. -/
def startsWord : Option Char → Bool
  | none => true
  | some c => !isWordChar c

/-- Whether the place is not inside a word: the next character is no word character. -/
def endsWord : List Char → Bool
  | [] => true
  | c :: _ => !isWordChar c

/-- The digits at the start of a text, if there are any, and the rest. -/
def digits? (s : List Char) : Option (List Char × List Char) :=
  let ds := s.takeWhile isDigit
  if ds.isEmpty then none else some (ds, s.dropWhile isDigit)

/-- A number whose last digit ends a word. -/
def wholeNumber? (s : List Char) : Option (List Char) :=
  match digits? s with
  | some (ds, rest) => if endsWord rest then some ds else none
  | none => none

/-- Reads `#12`, unless a word character or an ampersand stands before it, or `GH-12` at the start
of a word. -/
def github? (before : Option Char) : List Char → Option TicketRef
  | '#' :: rest =>
    if startsWord before && before != some '&' then
      (wholeNumber? rest).map fun ds => ⟨.github, String.ofList ds, String.ofList ('#' :: ds)⟩
    else none
  | 'G' :: 'H' :: '-' :: rest =>
    if startsWord before then
      (wholeNumber? rest).map fun ds =>
        ⟨.github, String.ofList ds, String.ofList ('G' :: 'H' :: '-' :: ds)⟩
    else none
  | _ => none

/-- A capital letter. -/
def isCapital (c : Char) : Bool := 'A' ≤ c && c ≤ 'Z'

/-- A character of a project key after its second one. -/
def isProjectChar (c : Char) : Bool := isCapital c || isAsciiDigit c

/-- Reads a project key, a hyphen and digits: two capitals, at most eight more capitals or digits.
Gives the key, the digits and the rest. -/
def key? : List Char → Option (List Char × List Char × List Char)
  | a :: b :: rest =>
    if isCapital a && isCapital b then
      let more := rest.takeWhile isProjectChar
      if more.length ≤ 8 then
        match rest.dropWhile isProjectChar with
        | '-' :: tail => (digits? tail).map fun (ds, rest) => (a :: b :: more, ds, rest)
        | _ => none
      else none
    else none
  | _ => none

/-- The identifier of a project key and digits. -/
def ticketId (key ds : List Char) : List Char := key ++ '-' :: ds

/-- Reads a bracketed key. -/
def generic? : List Char → Option TicketRef
  | '[' :: rest =>
    match key? rest with
    | some (key, ds, ']' :: _) =>
      let id := ticketId key ds
      some ⟨.generic, String.ofList id, String.ofList ('[' :: id ++ [']'])⟩
    | _ => none
  | _ => none

/-- Reads a bare key that is a word of its own. -/
def jira? (before : Option Char) (s : List Char) : Option TicketRef :=
  if startsWord before then
    match key? s with
    | some (key, ds, rest) =>
      if endsWord rest then
        let id := String.ofList (ticketId key ds)
        some ⟨.jira, id, id⟩
      else none
    | none => none
  else none

/-- What `form` reads at the places of a text, in order. -/
def occurrences (form : Option Char → List Char → Option TicketRef) (before : Option Char) :
    List Char → List TicketRef
  | [] => []
  | c :: rest => (form before (c :: rest)).toList ++ occurrences form (some c) rest

/-- Drops a reference whose identifier occurred before in the list. -/
def firstOfEach (seen : List String) : List TicketRef → List TicketRef
  | [] => []
  | r :: rest =>
    if seen.contains r.id then firstOfEach seen rest
    else r :: firstOfEach (r.id :: seen) rest

/-- Whether a bare key is really a reference of another form: `GH-12`, or a key listed in
brackets. -/
def isOtherForm (bracketed : List TicketRef) (r : TicketRef) : Bool :=
  "GH-".toList.isPrefixOf r.id.toList || bracketed.any (·.id == r.id)

/-- The references of a text: those to GitHub, the bracketed ones and the bare keys, each form in
order of place and each identifier once per form. -/
def extract (s : String) : List TicketRef :=
  let text := s.toList
  let github := firstOfEach [] (occurrences github? none text)
  let generic := firstOfEach [] (occurrences (fun _ => generic?) none text)
  let jira := (occurrences jira? none text).filter fun r => !isOtherForm generic r
  github ++ generic ++ firstOfEach [] jira

end TicketRef

end CommitPolicy
