import CommitPolicy.Yaml.Property
import CommitPolicy.Yaml.Scalar

/-!
# From text to tokens

The lexer turns a text into tokens one after the other.  In block notation a token that is indented
more deeply than the collection around it starts a new collection, and one that is indented less
ends collections.  Whether a token is the key of a mapping shows only at the colon after it, so the
lexer remembers for each nesting of brackets the last token that could be one; the tokens for the
key are put before it when the colon comes.
-/

namespace CommitPolicy.Yaml

/-- A token that could be the key of a mapping. -/
structure PossibleKey where
  /-- The number of tokens before it. -/
  number : Nat
  /-- Whether it has to be a key. -/
  required : Bool
  index : Nat
  mark : Mark
  deriving Inhabited

/-- The lexer between two tokens. -/
structure Lexer where
  cursor : Cursor
  /-- The number of brackets that are open. -/
  flow : Nat
  /-- The column of the innermost block collection, or `-1`. -/
  indent : Int
  /-- The columns of the block collections around it. -/
  indents : List Int
  /-- Whether the next token can be a key without an indicator before it. -/
  allowKey : Bool
  /-- The tokens that could be keys, with the number of brackets around them. -/
  keys : List (Nat × PossibleKey)
  /-- The tokens so far, the last one first. -/
  tokens : List Token
  done : Bool

namespace Lexer

/-- The lexer at the start of a text. -/
def start (s : List Char) : Lexer := ⟨Cursor.start s, 0, -1, [], true, [], [], false⟩

/-- Whether brackets are open. -/
def inFlow (l : Lexer) : Bool := l.flow != 0

/-- The lexer with one more token. -/
def push (l : Lexer) (t : Token) : Lexer := { l with tokens := t :: l.tokens }

/-- The lexer with a token that has no characters. -/
def pushEmpty (l : Lexer) (kind : TokenKind) : Lexer :=
  l.push ⟨kind, l.cursor.mark, l.cursor.mark⟩

/-- The lexer after a token that is `n` characters long. -/
def pushIndicator (l : Lexer) (kind : TokenKind) (n : Nat) : Lexer :=
  let after := l.cursor.skip n
  { l.push ⟨kind, l.cursor.mark, after.mark⟩ with cursor := after }

/-- The lexer with a token put after the first `number` ones. -/
def insert (l : Lexer) (number : Nat) (t : Token) : Lexer :=
  let later := l.tokens.length - number
  { l with tokens := l.tokens.take later ++ t :: l.tokens.drop later }

/-! ### Possible keys -/

/-- The fault of a token that has to be a key and is none. -/
def missingColon (l : Lexer) (k : PossibleKey) : Fault :=
  .inside "while scanning a simple key" k.mark "could not find expected ':'" l.cursor.mark

/-- Whether a token can no longer be a key: a key and its colon are in one line, and not too far
apart. -/
def isStale (l : Lexer) (k : PossibleKey) : Bool :=
  k.mark.line != l.cursor.line || 1024 < l.cursor.index - k.index

/-- Forgets the tokens that can no longer be keys. -/
def dropStale (l : Lexer) : Except Fault Lexer :=
  match l.keys.find? fun (_, k) => l.isStale k && k.required with
  | some (_, k) => .error (l.missingColon k)
  | none => .ok { l with keys := l.keys.filter fun (_, k) => !l.isStale k }

/-- Forgets the token inside the current brackets that could be a key. -/
def dropKey (l : Lexer) : Except Fault Lexer :=
  match l.keys.lookup l.flow with
  | some k =>
    if k.required then .error (l.missingColon k)
    else .ok { l with keys := l.keys.filter fun (level, _) => level != l.flow }
  | none => .ok l

/-- Remembers that the next token could be a key. -/
def saveKey (l : Lexer) : Except Fault Lexer :=
  if l.allowKey then do
    let required := !l.inFlow && l.indent == l.cursor.column
    let l ← l.dropKey
    .ok { l with
      keys := l.keys ++ [(l.flow, ⟨l.tokens.length, required, l.cursor.index, l.cursor.mark⟩)] }
  else .ok l

/-! ### Indentation -/

/-- Ends the block collections that are indented more deeply than `column`. -/
def unwind (column : Int) (l : Lexer) : List Int → Lexer
  | [] => l
  | outer :: rest =>
    if !l.inFlow && column < l.indent then
      unwind column { l.pushEmpty .blockEnd with indent := outer, indents := rest } rest
    else l

/-- Ends the block collections that are indented more deeply than `column`. -/
def unwindTo (l : Lexer) (column : Int) : Lexer := unwind column l l.indents

/-- Starts a block collection before the token with a number, if it is indented more deeply than
the one around it. -/
def openBlock (l : Lexer) (column number : Nat) (t : Token) : Lexer :=
  if l.indent < column then
    { l.insert number t with indent := column, indents := l.indent :: l.indents }
  else l

/-- Starts a block collection at the cursor, if it is indented more deeply than the one around
it. -/
def openBlockHere (l : Lexer) (kind : TokenKind) : Lexer :=
  l.openBlock l.cursor.column l.tokens.length ⟨kind, l.cursor.mark, l.cursor.mark⟩

/-! ### Tokens -/

/-- Moves to the next token.  Outside brackets a token in a new line can be a key. -/
def toNextToken (l : Lexer) : Nat → Lexer
  | 0 => l
  | fuel + 1 =>
    let c := l.cursor.skipComment
    match c.lineBreak? with
    | some (_, c) => { l with cursor := c, allowKey := l.allowKey || !l.inFlow }.toNextToken fuel
    | none => { l with cursor := c }

/-- The end of the text. -/
def fetchEnd (l : Lexer) : Except Fault Lexer := do
  let l ← (l.unwindTo (-1)).dropKey
  .ok { l.pushEmpty .streamEnd with allowKey := false, keys := [], done := true }

/-- A directive. -/
def fetchDirective (l : Lexer) : Except Fault Lexer := do
  let l ← (l.unwindTo (-1)).dropKey
  let (t, c) ← readDirective l.cursor
  .ok { l.push t with cursor := c, allowKey := false }

/-- The mark at the start or the end of a document. -/
def fetchDocumentMark (l : Lexer) (kind : TokenKind) : Except Fault Lexer := do
  let l ← (l.unwindTo (-1)).dropKey
  .ok { l.pushIndicator kind 3 with allowKey := false }

/-- An opening bracket. -/
def fetchOpening (l : Lexer) (kind : TokenKind) : Except Fault Lexer := do
  let l ← l.saveKey
  .ok { l.pushIndicator kind 1 with flow := l.flow + 1, allowKey := true }

/-- A closing bracket. -/
def fetchClosing (l : Lexer) (kind : TokenKind) : Except Fault Lexer := do
  let l ← l.dropKey
  .ok { l.pushIndicator kind 1 with flow := l.flow - 1, allowKey := false }

/-- A comma between brackets. -/
def fetchComma (l : Lexer) : Except Fault Lexer := do
  let l ← l.dropKey
  .ok { l.pushIndicator .flowEntry 1 with allowKey := true }

/-- The dash before an item. -/
def fetchDash (l : Lexer) : Except Fault Lexer := do
  if !l.inFlow && !l.allowKey then
    .error (.plain "sequence entries are not allowed here" l.cursor.mark)
  else
    let l := if l.inFlow then l else l.openBlockHere .blockSequenceStart
    let l ← l.dropKey
    .ok { l.pushIndicator .blockEntry 1 with allowKey := true }

/-- The question mark before a key. -/
def fetchQuestion (l : Lexer) : Except Fault Lexer := do
  if !l.inFlow && !l.allowKey then
    .error (.plain "mapping keys are not allowed here" l.cursor.mark)
  else
    let l := if l.inFlow then l else l.openBlockHere .blockMappingStart
    let l ← l.dropKey
    .ok { l.pushIndicator .key 1 with allowKey := !l.inFlow }

/-- The colon before a value: after a token that could be a key, or after a key with an
indicator. -/
def fetchColon (l : Lexer) : Except Fault Lexer := do
  match l.keys.lookup l.flow with
  | some k =>
    let l := { l with keys := l.keys.filter fun (level, _) => level != l.flow }
    let l := l.insert k.number ⟨.key, k.mark, k.mark⟩
    let l :=
      if l.inFlow then l
      else l.openBlock k.mark.column k.number ⟨.blockMappingStart, k.mark, k.mark⟩
    .ok { l.pushIndicator .value 1 with allowKey := false }
  | none =>
    if !l.inFlow && !l.allowKey then
      .error (.plain "mapping values are not allowed here" l.cursor.mark)
    else
      let l := if l.inFlow then l else l.openBlockHere .blockMappingStart
      let l ← l.dropKey
      .ok { l.pushIndicator .value 1 with allowKey := !l.inFlow }

/-- A token that could be a key and after which there is none. -/
def fetchNode (l : Lexer) (read : Cursor → Except Fault (Token × Cursor)) : Except Fault Lexer := do
  let l ← l.saveKey
  let (t, c) ← read l.cursor
  .ok { l.push t with cursor := c, allowKey := false }

/-- A block scalar. -/
def fetchBlockScalar (l : Lexer) (folded : Bool) : Except Fault Lexer := do
  let l ← l.dropKey
  let (t, c) ← readBlockScalar folded l.indent l.cursor
  .ok { l.push t with cursor := c, allowKey := true }

/-- A plain scalar. -/
def fetchPlain (l : Lexer) : Except Fault Lexer := do
  let l ← l.saveKey
  let (t, c, broken) := readPlain l.inFlow l.indent l.cursor
  .ok { l.push t with cursor := c, allowKey := broken }

/-- Whether a plain scalar can start at the cursor. -/
def startsPlain (l : Lexer) : Bool :=
  let x := l.cursor.peek
  !(isGap x || "-?:,[]\x7b\x7d#&*!|>'\"%@".toList.contains x || x.toNat == 0x60)
    || (!isGap (l.cursor.peekAt 1) && (x == '-' || (!l.inFlow && (x == '?' || x == ':'))))

/-- Reads the token at the cursor. -/
def fetchHere (l : Lexer) : Except Fault Lexer :=
  let c := l.cursor
  let x := c.peek
  let spaced := isGap (c.peekAt 1)
  let lineStart := c.column = 0
  if x == ending then l.fetchEnd
  else if x == '%' && lineStart then l.fetchDirective
  else if x == '-' && lineStart && c.atDocumentMark then l.fetchDocumentMark .documentStart
  else if x == '.' && lineStart && c.atDocumentMark then l.fetchDocumentMark .documentEnd
  else if x == '[' then l.fetchOpening .flowSequenceStart
  else if x == '\x7b' then l.fetchOpening .flowMappingStart
  else if x == ']' then l.fetchClosing .flowSequenceEnd
  else if x == '\x7d' then l.fetchClosing .flowMappingEnd
  else if x == ',' then l.fetchComma
  else if x == '-' && spaced then l.fetchDash
  else if x == '?' && (l.inFlow || spaced) then l.fetchQuestion
  else if x == ':' && (l.inFlow || spaced) then l.fetchColon
  else if x == '*' then l.fetchNode (readAnchor true)
  else if x == '&' then l.fetchNode (readAnchor false)
  else if x == '!' then l.fetchNode readTag
  else if x == '|' && !l.inFlow then l.fetchBlockScalar false
  else if x == '>' && !l.inFlow then l.fetchBlockScalar true
  else if x == '\'' then l.fetchNode (readQuoted false)
  else if x == '"' then l.fetchNode (readQuoted true)
  else if l.startsPlain then l.fetchPlain
  else
    .error (.located (some ("while scanning for the next token", none))
      ("found character " ++ named x ++ " that cannot start any token") (some c.mark))

/-- Reads the next token. -/
def fetch (l : Lexer) : Except Fault Lexer := do
  let l := l.toNextToken (l.cursor.rest.length + 1)
  let l ← l.dropStale
  (l.unwindTo l.cursor.column).fetchHere

/-- The tokens that are settled: those before the first one that could still be a key. -/
def settled (l : Lexer) : List Token :=
  let open_ := (l.keys.filter fun (_, k) => !l.isStale k).map fun (_, k) => k.number
  match open_.min? with
  | some n => l.tokens.reverse.take n
  | none => l.tokens.reverse

/-- The tokens from a lexer on, and the fault that comes after them. -/
def run (l : Lexer) : Nat → List Token × Option Fault
  | 0 => (l.settled, none)
  | fuel + 1 =>
    match l.fetch with
    | .error f => (l.settled, some f)
    | .ok l => if l.done then (l.tokens.reverse, none) else l.run fuel

end Lexer

/-- The tokens of a text, and the fault that comes after them, if there is one.  A byte order mark
at the start does not count. -/
def tokens (s : List Char) : List Token × Option Fault :=
  let l := Lexer.start s
  let l :=
    match s with
    | c :: _ => if c.toNat = 0xFEFF then { l with cursor := l.cursor.next } else l
    | [] => l
  l.run (s.length + 2)

end CommitPolicy.Yaml
