import CommitPolicy.Console.Emoji
import CommitPolicy.Failure

/-!
# Markup

Text for the console is marked up with tags in brackets.  Backslashes before a tag come in pairs
that stand for one backslash each, and one left over makes the tag plain text.  `escape` writes a
text so that its tags are plain, and `render` gives the text that markup shows.
-/

namespace CommitPolicy.Console

open Text

/-- The characters that a tag can start with. -/
def opensTag (c : Char) : Bool := ('a' ≤ c && c ≤ 'z') || c == '#' || c == '/' || c == '@'

/-- The text up to a closing bracket and the text after it, if no opening bracket comes first. -/
def upToBracket : List Char → Option (List Char × List Char)
  | [] => none
  | '[' :: _ => none
  | ']' :: rest => some ([], rest)
  | c :: rest => (upToBracket rest).map fun (body, rest) => (c :: body, rest)

/-- The text of a tag and the text after it, `s` being the text after the opening bracket. -/
def tagBody? : List Char → Option (List Char × List Char)
  | [] => none
  | c :: rest =>
    if opensTag c then (upToBracket rest).map fun (body, rest) => (c :: body, rest) else none

theorem length_lt_of_upToBracket {s body rest : List Char} (h : upToBracket s = some (body, rest)) :
  rest.length < s.length
  := by
  fun_induction upToBracket s generalizing body with
  | case1 => simp at h
  | case2 => simp at h
  | case3 r => simp_all
  | case4 c r _ _ ih =>
    obtain ⟨⟨b, t⟩, hb, hbt⟩ := Option.map_eq_some_iff.1 h
    simp only [Prod.mk.injEq] at hbt
    have := ih (hbt.2 ▸ hb)
    simp only [List.length_cons]
    omega

theorem length_lt_of_tagBody {s body rest : List Char} (h : tagBody? s = some (body, rest)) :
  rest.length < s.length
  := by
  match s with
  | [] => simp [tagBody?] at h
  | c :: r =>
    simp only [tagBody?] at h
    split at h
    · obtain ⟨⟨b, t⟩, hb, hbt⟩ := Option.map_eq_some_iff.1 h
      simp only [Prod.mk.injEq] at hbt
      have := length_lt_of_upToBracket (hbt.2 ▸ hb)
      simp only [List.length_cons]
      omega
    · simp at h

/-- A piece of markup: a character, or a tag with the backslashes before it. -/
inductive Piece where
  | char (c : Char)
  | tag (backslashes : Nat) (body : List Char)
  deriving DecidableEq, Repr

/-- So many backslashes. -/
def backslashes (n : Nat) : List Char := List.replicate n '\\'

/-- The pieces of markup that follows `n` backslashes. -/
def piecesAfter (n : Nat) : List Char → List Piece
  | [] => (backslashes n).map .char
  | c :: rest =>
    if c = '\\' then piecesAfter (n + 1) rest
    else if c = '[' then
      match h : tagBody? rest with
      | some (body, rest') =>
        have := length_lt_of_tagBody h
        .tag n body :: piecesAfter 0 rest'
      | none => (backslashes n).map .char ++ .char c :: piecesAfter 0 rest
    else (backslashes n).map .char ++ .char c :: piecesAfter 0 rest
termination_by s => s.length

/-- The pieces of markup. -/
def pieces (s : List Char) : List Piece := piecesAfter 0 s

/-- A piece written so that it is plain text. -/
def Piece.escaped : Piece → List Char
  | char c => [c]
  | tag n body => backslashes (2 * n + 1) ++ '[' :: body ++ [']']

/-- A text written so that its tags are plain.  A single backslash at its end is doubled, so that it
does not escape a tag that comes next. -/
def escape (s : List Char) : List Char :=
  let t := (pieces s).flatMap Piece.escaped
  if ['\\'].isSuffixOf t && !(['\\', '\\'].isSuffixOf t) then t ++ ['\\'] else t

/-- A text written so that its tags are plain. -/
def escapeText (s : String) : String := String.ofList (escape s.toList)

/-- A stretch of markup in which emoji codes are replaced, or a tag that is in force. -/
inductive Stretch where
  | text (s : List Char)
  | tag (body : List Char)
  deriving DecidableEq, Repr

/-- The stretch of the characters `pending`, which are in reverse, if there are any. -/
def Stretch.pending (pending : List Char) : List Stretch :=
  if pending.isEmpty then [] else [.text pending.reverse]

/-- The stretches of a tag with backslashes before it. -/
def Stretch.ofTag (n : Nat) (body : List Char) : List Stretch :=
  (if n / 2 = 0 then [] else [.text (backslashes (n / 2))])
    ++ [if n % 2 = 1 then .text ('[' :: body ++ [']']) else .tag body]

/-- The stretches of markup; `pending` are the characters read since the last tag, in reverse. -/
def stretches (pending : List Char) : List Piece → List Stretch
  | [] => Stretch.pending pending
  | .char c :: rest => stretches (c :: pending) rest
  | .tag n body :: rest => Stretch.pending pending ++ Stretch.ofTag n body ++ stretches [] rest

/-- Drops the backslash of every pair of a backslash and an opening bracket. -/
def unescapeBrackets : List Char → List Char
  | [] => []
  | '\\' :: '[' :: rest => '[' :: unescapeBrackets rest
  | c :: rest => c :: unescapeBrackets rest

/-- Short names of styles. -/
def styleAliases : List (String × String) :=
  [("b", "bold"), ("d", "dim"), ("i", "italic"), ("u", "underline"), ("uu", "underline2"),
    ("r", "reverse"), ("s", "strike"), ("c", "conceal"), ("o", "overline"), ("", "none")]

/-- The name of a style in the form in which an opening and a closing tag are compared. -/
def styleName (name : List Char) : String :=
  let s := toLower (String.ofList (trim name))
  (styleAliases.lookup s).getD s

/-- The names of the styles without the last one that is called `name`, if there is one; the one
opened last comes first. -/
def closeStyle (name : String) : List String → Option (List String)
  | [] => none
  | s :: rest => if s = name then some rest else (closeStyle name rest).map (s :: ·)

/-- The styles that are open after a tag. -/
def applyTag (styles : List String) (body : List Char) : Except Failure (List String) :=
  match body.takeWhile (· != '=') with
  | '/' :: name =>
    if (trim name).isEmpty then
      match styles with
      | _ :: rest => .ok rest
      | [] => .error (.badMarkup "closing tag '[/]' has nothing to close")
    else
      match closeStyle (styleName name) styles with
      | some rest => .ok rest
      | none => .error (.badMarkup
          ("closing tag '[" ++ String.ofList body ++ "]' doesn't match any open tag"))
  | name => .ok (styleName name :: styles)

/-- The text that stretches of markup show, `styles` being the styles that are open. -/
def renderStretches (styles : List String) : List Stretch → Except Failure (List Char)
  | [] => .ok []
  | .text s :: rest => do
    let shown ← renderStretches styles rest
    .ok (replaceEmoji (unescapeBrackets s) ++ shown)
  | .tag body :: rest => do
    let styles ← applyTag styles body
    renderStretches styles rest

/-- The text that markup shows. -/
def render (s : List Char) : Except Failure (List Char) :=
  renderStretches [] (stretches [] (pieces s))

end CommitPolicy.Console
