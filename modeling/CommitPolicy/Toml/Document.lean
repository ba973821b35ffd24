import CommitPolicy.ReadingLimits
import CommitPolicy.Text.Lines
import CommitPolicy.Toml.Reader

/-!
# TOML documents

A document is a series of statements: an entry, a table or an item of an array of tables.  A name
can be given once, a table can be opened once, and what is written between brackets is complete.
-/

namespace CommitPolicy.Toml

open Text

/-- The entries of a table. -/
abbrev Entries := List (Value × Value)

/-! ### Tables in tables -/

/-- Changes the table that a key leads to, which is made if it is not there.  A key that leads to an
array of tables means its last one if `lists` holds. -/
def changeTable (lists : Bool) (change : Entries → Option Entries) :
    List String → Entries → Option Entries
  | [], entries => change entries
  | name :: key, entries =>
    match Value.lookup name entries with
    | none => (changeTable lists change key []).map fun t => entries ++ [(.text name, .map t)]
    | some old => do
      let new ← match old with
        | .map t => (changeTable lists change key t).map .map
        | .list items =>
          if lists then
            match items.getLast? with
            | some (.map t) =>
              (changeTable lists change key t).map fun t => .list (items.dropLast ++ [.map t])
            | _ => none
          else none
        | _ => none
      some (entries.map fun
        | (.text k, v) => (.text k, if k = name then new else v)
        | e => e)

/-- Puts a value under a name that is not in the table. -/
def addEntry (name : String) (value : Value) (entries : Entries) : Option Entries :=
  match Value.lookup name entries with
  | some _ => none
  | none => some (entries ++ [(.text name, value)])

/-- Puts an empty table at the end of an array of tables, which is made if it is not there. -/
def addTable (name : String) (entries : Entries) : Option Entries :=
  match Value.lookup name entries with
  | none => some (entries ++ [(.text name, .list [.map []])])
  | some (.list items) =>
    some (entries.map fun
      | (.text k, v) => (.text k, if k = name then .list (items ++ [.map []]) else v)
      | e => e)
  | some _ => none

/-! ### What can no longer be changed -/

/-- Why a name can no longer be given. -/
inductive Seal where
  /-- It is complete, and so is all that is in it. -/
  | complete
  /-- It is a table that has been opened. -/
  | opened
  deriving DecidableEq, Repr

/-- The names that are sealed. -/
abbrev Seals := List (List String × Seal)

/-- Whether a table has been opened. -/
def isOpened (seals : Seals) (key : List String) : Bool := seals.contains (key, .opened)

/-- Whether a name is complete, or in something that is. -/
def isComplete (seals : Seals) (key : List String) : Bool :=
  seals.any fun (k, s) => s == .complete && k.isPrefixOf key

/-- A key as it is shown. -/
def keyText (key : List String) : String :=
  match key with
  | [name] => "(" ++ quoted name ++ ",)"
  | key => "(" ++ joinWith ", " (key.map quoted) ++ ")"

/-! ### Values -/

/-- Whether a value is a collection. -/
def isCollection : Value → Bool
  | .map _ | .list _ => true
  | _ => false

/-- A key without its last part, and its last part. -/
def splitKey (key : List String) : List String × String := (key.dropLast, key.getLast?.getD "")

mutual

/-- Reads a value. -/
def readValue (s : List Char) : Nat → Except Fault (Value × List Char)
  | 0 => .error (.here "Invalid value" s)
  | fuel + 1 =>
    match s with
    | '"' :: _ | '\'' :: _ => (readText s).map fun (t, rest) => (.text (String.ofList t), rest)
    | '[' :: rest => do
      let rest ← skipSpace rest
      let (items, rest) ← readItems rest fuel
      .ok (.list items, rest)
    | '\x7b' :: rest => do
      let rest ← skipSpace rest
      let (entries, rest) ← readEntries [] [] rest fuel
      .ok (.map entries, rest)
    | s =>
      if "true".toList.isPrefixOf s then .ok (.bool true, s.drop 4)
      else if "false".toList.isPrefixOf s then .ok (.bool false, s.drop 5)
      else readPlainValue s

/-- Reads the items of an array up to the closing bracket. -/
def readItems (s : List Char) : Nat → Except Fault (List Value × List Char)
  | 0 => .error (.here "Unclosed array" s)
  | fuel + 1 => do
    match s with
    | ']' :: rest => .ok ([], rest)
    | s =>
      let (v, rest) ← readValue s fuel
      let rest ← skipSpace rest
      match rest with
      | ']' :: rest => .ok ([v], rest)
      | ',' :: rest =>
        let rest ← skipSpace rest
        let (vs, rest) ← readItems rest fuel
        .ok (v :: vs, rest)
      | rest => .error (.here "Unclosed array" rest)

/-- Reads the entries of a table between braces up to the closing brace. -/
def readEntries (entries : Entries) (seals : Seals) (s : List Char) :
    Nat → Except Fault (Entries × List Char)
  | 0 => .error (.here "Unclosed inline table" s)
  | fuel + 1 => do
    match s with
    | '\x7d' :: rest => .ok (entries, rest)
    | s =>
      let (key, value, rest) ← readEntry s fuel
      let (parent, name) := splitKey key
      if isComplete seals key then
        .error (.here ("Cannot mutate immutable namespace " ++ keyText key) rest)
      else
        match changeTable false some parent entries with
        | none => .error (.here "Cannot overwrite a value" rest)
        | some _ =>
          match changeTable false (addEntry name value) parent entries with
          | none => .error (.here ("Duplicate inline table key " ++ quoted name) rest)
          | some entries =>
            let rest ← skipSpace rest
            match rest with
            | '\x7d' :: rest => .ok (entries, rest)
            | ',' :: rest =>
              let rest ← skipSpace rest
              readEntries entries (if isCollection value then (key, .complete) :: seals else seals)
                rest fuel
            | rest => .error (.here "Unclosed inline table" rest)

/-- Reads a key, an equals sign and a value. -/
def readEntry (s : List Char) : Nat → Except Fault (List String × Value × List Char)
  | 0 => .error (.here "Invalid value" s)
  | fuel + 1 => do
    let (key, rest) ← readKey s (s.length + 1)
    match rest with
    | '=' :: rest =>
      let (value, rest) ← readValue (skipGaps rest) fuel
      .ok (key, value, rest)
    | rest => .error (.here "Expected '=' after a key in a key/value pair" rest)

end

/-! ### Statements -/

/-- The document as far as it has been read: its entries, the table that is open, and what is
sealed; some tables are sealed only when the next one is opened. -/
structure Draft where
  entries : Entries
  header : List String
  seals : Seals
  pending : Seals

namespace Draft

/-- The draft with the pending seals in force. -/
def settle (d : Draft) : Draft := { d with seals := d.pending ++ d.seals, pending := [] }

/-- The proper starts of a key, the key itself left out. -/
def properStarts (key : List String) : List (List String) :=
  (List.range (key.length - 1)).map fun i => key.take (i + 1)

/-- Puts an entry into the open table. -/
def addValue (d : Draft) (key : List String) (value : Value) (rest : List Char) :
    Except Fault Draft :=
  let (parent, name) := splitKey key
  let inner := (properStarts key).map fun k => d.header ++ k
  match inner.find? (isOpened d.seals) with
  | some k => .error (.here ("Cannot redefine namespace " ++ keyText k) rest)
  | none =>
    let whole := d.header ++ parent
    if !whole.isEmpty && isComplete d.seals whole then
      .error (.here ("Cannot mutate immutable namespace " ++ keyText whole) rest)
    else
      match changeTable true (addEntry name value) whole d.entries with
      | none => .error (.here "Cannot overwrite a value" rest)
      | some entries =>
        .ok { d with
          entries := entries
          seals := if isCollection value then (d.header ++ key, .complete) :: d.seals else d.seals
          pending := inner.map (fun k => (k, .opened)) ++ d.pending }

/-- Opens a table. -/
def openTable (d : Draft) (key : List String) (rest : List Char) : Except Fault Draft :=
  if isOpened d.seals key || isComplete d.seals key then
    .error (.here ("Cannot declare " ++ keyText key ++ " twice") rest)
  else
    match changeTable true some key d.entries with
    | none => .error (.here "Cannot overwrite a value" rest)
    | some entries =>
      .ok { d with entries := entries, header := key, seals := (key, .opened) :: d.seals }

/-- Opens a new table at the end of an array of tables. -/
def openItem (d : Draft) (key : List String) (rest : List Char) : Except Fault Draft :=
  if isComplete d.seals key then
    .error (.here ("Cannot mutate immutable namespace " ++ keyText key) rest)
  else
    let (parent, name) := splitKey key
    match changeTable true (addTable name) parent d.entries with
    | none => .error (.here "Cannot overwrite a value" rest)
    | some entries =>
      .ok { d with
        entries := entries
        header := key
        seals := (key, .opened) :: d.seals.filter fun (k, _) => !key.isPrefixOf k }

/-- Reads a statement that opens a table, and gives what is left. -/
def readHeader (d : Draft) (s : List Char) : Except Fault (Draft × List Char) := do
  let d := d.settle
  match s with
  | '[' :: '[' :: body =>
    let (key, rest) ← readKey (skipGaps body) (body.length + 1)
    let d ← d.openItem key rest
    match rest with
    | ']' :: ']' :: rest => .ok (d, rest)
    | rest => .error (.here "Expected ']]' at the end of an array declaration" rest)
  | s =>
    let (key, rest) ← readKey (skipGaps (s.drop 1)) (s.length + 1)
    let d ← d.openTable key rest
    match rest with
    | ']' :: rest => .ok (d, rest)
    | rest => .error (.here "Expected ']' at the end of a table declaration" rest)

/-- Reads a statement that does not start with a blank or a comment. -/
def readStatement (d : Draft) (s : List Char) : Except Fault (Draft × List Char) := do
  match s with
  | '[' :: _ => d.readHeader s
  | c :: _ =>
    if isKeyChar c || c == '"' || c == '\'' then
      let (key, value, rest) ← readEntry s (2 * s.length + 2)
      let d ← d.addValue key value rest
      .ok (d, rest)
    else if c == '#' then .ok (d, s)
    else .error (.here "Invalid statement" s)
  | [] => .ok (d, s)

/-- Reads statements, one in a line. -/
def readStatements (d : Draft) (s : List Char) : Nat → Except Fault Draft
  | 0 => .ok d
  | fuel + 1 => do
    match skipGaps s with
    | [] => .ok d
    | '\n' :: rest => d.readStatements rest fuel
    | s =>
      let (d, rest) ← d.readStatement s
      match ← skipComment (skipGaps rest) with
      | [] => .ok d
      | '\n' :: rest => d.readStatements rest fuel
      | rest => .error (.here "Expected newline or end of document after a statement" rest)

end Draft

/-- The value of the document in the text of the file called `path`. -/
def readDocument [ReadingLimits] (path text : String) : Except Failure Value :=
  if ReadingLimits.exhaustsToml text then .error .tooDeep
  else
    let src := unixNewlines text.toList
    match Draft.readStatements ⟨[], [], [], []⟩ src (src.length + 1) with
    | .ok d => .ok (.map d.entries)
    | .error f => .error (f.failure path src)

end CommitPolicy.Toml
