import CommitPolicy.Yaml.Lexer
import CommitPolicy.Yaml.Resolve

/-!
# Nodes

A document is a tree of nodes, each with a tag.  `Node.ofText` reads the tokens of a text by the
grammar of documents, puts for every alias the node that it stands for, and gives a tag to every
node that has none.
-/

namespace CommitPolicy.Yaml

open Text

/-- A node of a document, with the place where it starts. -/
inductive Node where
  | scalar (tag text : String) (start : Mark)
  | sequence (tag : String) (items : List Node) (start : Mark)
  | mapping (tag : String) (entries : List (Node × Node)) (start : Mark)
  deriving Inhabited

namespace Node

/-- The tag of a node. -/
def tag : Node → String
  | scalar t _ _ | sequence t _ _ | mapping t _ _ => t

/-- The place where a node starts. -/
def start : Node → Mark
  | scalar _ _ m | sequence _ _ m | mapping _ _ m => m

/-- What a node is called in faults. -/
def label : Node → String
  | scalar _ _ _ => "scalar"
  | sequence _ _ _ => "sequence"
  | mapping _ _ _ => "mapping"

/-- The node that is left out at a place. -/
def absent (m : Mark) : Node := scalar (standardTag "null") "" m

end Node

/-- A node that has an anchor, and the place where the anchor stands.  Inside the node itself the
anchor stands for an empty collection. -/
structure Anchored where
  name : String
  start : Mark
  node : Node

/-- The tokens left to read and what holds in the document. -/
structure Grammar where
  tokens : List Token
  /-- The fault that comes after the tokens. -/
  fault : Option Fault
  /-- The handles of tags, with what they stand for. -/
  handles : List (String × String)
  anchors : List Anchored

/-- Reads something from tokens. -/
abbrev Reading (α : Type) := StateT Grammar (Except Fault) α

namespace Grammar

/-- Gives up. -/
def fail {α : Type} (f : Fault) : Reading α := throw f

/-- The next token. -/
def peek : Reading Token := do
  let g ← get
  match g.tokens with
  | t :: _ => pure t
  | [] => fail (g.fault.getD (.located none "unexpected end of tokens" none))

/-- The kind of the next token. -/
def peekKind : Reading TokenKind := do
  let t ← peek
  pure t.kind

/-- Takes the next token. -/
def take : Reading Token := do
  let t ← peek
  modify fun g => { g with tokens := g.tokens.tail }
  pure t

/-- Gives an anchor to a node. -/
def setAnchor (anchor : Option String) (start : Mark) (node : Node) : Reading Unit :=
  match anchor with
  | some name =>
    modify fun g =>
      { g with anchors := ⟨name, start, node⟩ :: g.anchors.filter fun a => a.name != name }
  | none => pure ()

/-- What stands before a node: an anchor, a tag with its place, and the place of the first. -/
structure Properties where
  anchor : Option String
  tag : Option (TagName × Mark)
  start : Option Mark

/-- Reads what stands before a node. -/
def properties : Reading Properties := do
  let first ← peek
  match first.kind with
  | .anchor name =>
    let _ ← take
    let second ← peek
    match second.kind with
    | .tag t =>
      let _ ← take
      pure ⟨some name, some (t, second.start), some first.start⟩
    | _ => pure ⟨some name, none, some first.start⟩
  | .tag t =>
    let _ ← take
    let second ← peek
    match second.kind with
    | .anchor name =>
      let _ ← take
      pure ⟨some name, some (t, first.start), some first.start⟩
    | _ => pure ⟨none, some (t, first.start), some first.start⟩
  | _ => pure ⟨none, none, none⟩

/-- The tag that a tag as it is written stands for, in a node that starts at `start`. -/
def fullTag (start : Mark) : Option (TagName × Mark) → Reading (Option String)
  | none => pure none
  | some (t, mark) =>
    match t.handle with
    | none => pure (some t.suffix)
    | some handle => do
      let g ← get
      match g.handles.lookup handle with
      | some base => pure (some (base ++ t.suffix))
      | none =>
        fail (.inside "while parsing a node" start
          ("found undefined tag handle " ++ quoted handle) mark)

/-- Refuses an anchor that the document already has. -/
def checkAnchor (anchor : Option String) (start : Mark) : Reading Unit := do
  let g ← get
  match anchor.bind fun name => g.anchors.find? fun a => a.name == name with
  | some a =>
    fail (.inside ("found duplicate anchor " ++ quoted a.name ++ "; first occurrence") a.start
      "second occurrence" start)
  | none => pure ()

/-- The tag of a scalar: its own, that of its text if it is plain or marked as untagged, or that of
texts. -/
def scalarTag (tag : Option String) (style : ScalarStyle) (text : String) : String :=
  match tag with
  | some "!" => plainTag text
  | some t => t
  | none => if style = .plain then plainTag text else standardTag "str"

/-- The tag of a collection. -/
def collectionTag (tag : Option String) (default : String) : String :=
  match tag with
  | none | some "!" => standardTag default
  | some t => t

/-- Whether a token of a kind ends an item that was left out in block notation. -/
def endsBlockItem : TokenKind → Bool
  | .blockEntry | .key | .value | .blockEnd => true
  | _ => false

/-- The fault of a token that is not expected in a collection that starts at `start`. -/
def unexpected {α : Type} (what : String) (start : Mark) (expected : String) : Reading α := do
  let t ← peek
  fail (.inside ("while parsing a " ++ what) start (expected ++ " " ++ t.kind.label) t.start)

mutual

/-- Reads a node; `block` tells whether it can be a block collection, and `dashes` whether it can be
a sequence whose dashes are not indented. -/
def node (block dashes : Bool) : Nat → Reading Node
  | 0 => fail (.located none "too deeply nested" none)
  | fuel + 1 => do
    let first ← peek
    match first.kind with
    | .anchorUse name =>
      let _ ← take
      let g ← get
      match g.anchors.find? fun a => a.name == name with
      | some a => pure a.node
      | none => fail (.plain ("found undefined alias " ++ quoted name) first.start)
    | _ =>
      let p ← properties
      let start := p.start.getD first.start
      let tag ← fullTag start p.tag
      let next ← peek
      let sequenceTag := collectionTag tag "seq"
      let mappingTag := collectionTag tag "map"
      let sequence (items : Reading (List Node)) : Reading Node := do
        checkAnchor p.anchor start
        setAnchor p.anchor start (.sequence sequenceTag [] start)
        let n := Node.sequence sequenceTag (← items) start
        setAnchor p.anchor start n
        pure n
      let mapping (entries : Reading (List (Node × Node))) : Reading Node := do
        checkAnchor p.anchor start
        setAnchor p.anchor start (.mapping mappingTag [] start)
        let n := Node.mapping mappingTag (← entries) start
        setAnchor p.anchor start n
        pure n
      let scalar (style : ScalarStyle) (text : String) : Reading Node := do
        checkAnchor p.anchor start
        let n := Node.scalar (scalarTag tag style text) text start
        setAnchor p.anchor start n
        pure n
      match next.kind with
      | .scalar text style =>
        let _ ← take
        scalar style text
      | .flowSequenceStart => sequence (do
        let _ ← take
        flowItems next.start true fuel)
      | .flowMappingStart => mapping (do
        let _ ← take
        flowEntries next.start true fuel)
      | kind =>
        if dashes && kind == .blockEntry then sequence (dashItems fuel)
        else if block && kind == .blockSequenceStart then sequence (do
          let _ ← take
          blockItems next.start fuel)
        else if block && kind == .blockMappingStart then mapping (do
          let _ ← take
          blockEntries next.start fuel)
        else if p.start.isSome then scalar .plain ""
        else
          unexpected ((if block then "block" else "flow") ++ " node") start
            "expected the node content, but found"

/-- Reads the items of an indented block sequence that starts at `start`. -/
def blockItems (start : Mark) : Nat → Reading (List Node)
  | 0 => pure []
  | fuel + 1 => do
    let t ← peek
    match t.kind with
    | .blockEntry =>
      let _ ← take
      let next ← peekKind
      let item ←
        if next == .blockEntry || next == .blockEnd then pure (.absent t.stop)
        else node true false fuel
      let rest ← blockItems start fuel
      pure (item :: rest)
    | .blockEnd =>
      let _ ← take
      pure []
    | _ => unexpected "block collection" start "expected <block end>, but found"

/-- Reads the items of a block sequence whose dashes are not indented. -/
def dashItems : Nat → Reading (List Node)
  | 0 => pure []
  | fuel + 1 => do
    let t ← peek
    match t.kind with
    | .blockEntry =>
      let _ ← take
      let item ← if endsBlockItem (← peekKind) then pure (.absent t.stop) else node true false fuel
      let rest ← dashItems fuel
      pure (item :: rest)
    | _ => pure []

/-- Reads the entries of a block mapping that starts at `start`. -/
def blockEntries (start : Mark) : Nat → Reading (List (Node × Node))
  | 0 => pure []
  | fuel + 1 => do
    let t ← peek
    match t.kind with
    | .key =>
      let _ ← take
      let key ← blockPart t.stop fuel
      let colon ← peek
      let value ←
        if colon.kind == .value then do
          let _ ← take
          blockPart colon.stop fuel
        else pure (.absent colon.start)
      let rest ← blockEntries start fuel
      pure ((key, value) :: rest)
    | .blockEnd =>
      let _ ← take
      pure []
    | _ => unexpected "block mapping" start "expected <block end>, but found"

/-- Reads a key or a value of a block mapping after the indicator that ends at `stop`. -/
def blockPart (stop : Mark) : Nat → Reading Node
  | 0 => pure (.absent stop)
  | fuel + 1 => do
    let next ← peekKind
    if next == .key || next == .value || next == .blockEnd then pure (.absent stop)
    else node true true fuel

/-- Reads the items of a flow sequence that starts at `start`; there is a comma before each one but
the first. -/
def flowItems (start : Mark) (isFirst : Bool) : Nat → Reading (List Node)
  | 0 => pure []
  | fuel + 1 => do
    if (← peekKind) == .flowSequenceEnd then
      let _ ← take
      pure []
    else
      if !isFirst then
        if (← peekKind) == .flowEntry then
          let _ ← take
        else unexpected "flow sequence" start "expected ',' or ']', but got"
      let t ← peek
      match t.kind with
      | .key =>
        let _ ← take
        let next ← peekKind
        let key ←
          if next == .value || next == .flowEntry || next == .flowSequenceEnd then
            pure (.absent t.stop)
          else node false false fuel
        let value ← flowValue .flowSequenceEnd fuel
        let rest ← flowItems start false fuel
        pure (.mapping (standardTag "map") [(key, value)] t.start :: rest)
      | .flowSequenceEnd =>
        let _ ← take
        pure []
      | _ =>
        let item ← node false false fuel
        let rest ← flowItems start false fuel
        pure (item :: rest)

/-- Reads the value of an entry in flow notation, if there is one; `closing` is the bracket that
ends the collection. -/
def flowValue (closing : TokenKind) : Nat → Reading Node
  | 0 => do
    let t ← peek
    pure (.absent t.start)
  | fuel + 1 => do
    let t ← peek
    if t.kind == .value then
      let _ ← take
      let next ← peekKind
      if next == .flowEntry || next == closing then pure (.absent t.stop)
      else node false false fuel
    else pure (.absent t.start)

/-- Reads the entries of a flow mapping that starts at `start`; there is a comma before each one but
the first. -/
def flowEntries (start : Mark) (isFirst : Bool) : Nat → Reading (List (Node × Node))
  | 0 => pure []
  | fuel + 1 => do
    if (← peekKind) == .flowMappingEnd then
      let _ ← take
      pure []
    else
      if !isFirst then
        if (← peekKind) == .flowEntry then
          let _ ← take
        else unexpected "flow mapping" start "expected ',' or '\x7d', but got"
      let t ← peek
      match t.kind with
      | .key =>
        let _ ← take
        let next ← peekKind
        let key ←
          if next == .value || next == .flowEntry || next == .flowMappingEnd then
            pure (.absent t.stop)
          else node false false fuel
        let value ← flowValue .flowMappingEnd fuel
        let rest ← flowEntries start false fuel
        pure ((key, value) :: rest)
      | .flowMappingEnd =>
        let _ ← take
        pure []
      | _ =>
        let key ← node false false fuel
        let colon ← peek
        let rest ← flowEntries start false fuel
        pure ((key, .absent colon.start) :: rest)

end

/-- The handles of tags that every document has. -/
def standardHandles : List (String × String) := [("!", "!"), ("!!", tagBase)]

/-- Reads the directives before a document; `version` tells whether one of them gave a version. -/
def directives (version : Bool) (handles : List (String × String)) :
    Nat → Reading (List (String × String))
  | 0 => pure handles
  | fuel + 1 => do
    let t ← peek
    match t.kind with
    | .directive d =>
      let _ ← take
      match d with
      | .version major _ =>
        if version then fail (.plain "found duplicate YAML directive" t.start)
        else if major != 1 then
          fail (.plain "found incompatible YAML document (version 1.* is required)" t.start)
        else directives true handles fuel
      | .tag handle uri =>
        if (handles.lookup handle).isSome then
          fail (.plain ("duplicate tag handle " ++ quoted handle) t.start)
        else directives version (handles ++ [(handle, uri)]) fuel
      | .other => directives version handles fuel
    | _ => pure handles

/-- Reads the marks at the ends of documents. -/
def documentEnds : Nat → Reading Unit
  | 0 => pure ()
  | fuel + 1 => do
    if (← peekKind) == .documentEnd then
      let _ ← take
      documentEnds fuel

/-- Reads what comes before a document that starts with a mark, and gives the place where it
starts; there is none at the end of the stream. -/
def documentHead (fuel : Nat) : Reading (Option Mark) := do
  documentEnds fuel
  let first ← peek
  if first.kind == .streamEnd then pure none
  else
    let handles ← directives false [] fuel
    modify fun g => { g with handles := handles ++ standardHandles }
    let t ← peek
    if t.kind == .documentStart then
      let _ ← take
      pure (some first.start)
    else fail (.plain ("expected '<document start>', but found " ++ t.kind.label) t.start)

/-- Whether a token of a kind stands between documents. -/
def isBetweenDocuments : TokenKind → Bool
  | .directive _ | .documentStart | .documentEnd | .streamEnd => true
  | _ => false

/-- Reads the node of a document that started with a mark. -/
def documentContent (fuel : Nat) : Reading Node := do
  let t ← peek
  if isBetweenDocuments t.kind then pure (.absent t.start) else node true false fuel

/-- Reads the first document, if there is one. -/
def firstDocument (fuel : Nat) : Reading (Option Node) := do
  match ← peekKind with
  | .directive _ | .documentStart | .streamEnd =>
    match ← documentHead fuel with
    | some _ => do
      let n ← documentContent fuel
      pure (some n)
    | none => pure none
  | _ => do
    let n ← node true false fuel
    pure (some n)

/-- Reads the only document, if there is one. -/
def onlyDocument (fuel : Nat) : Reading (Option Node) := do
  match ← firstDocument fuel with
  | none => pure none
  | some n =>
    match ← documentHead fuel with
    | none => pure (some n)
    | some second =>
      fail (.inside "expected a single document in the stream" n.start
        "but found another document" second)

end Grammar

/-- The node of the only document in a text, if there is one. -/
def Node.ofText (s : List Char) : Except Fault (Option Node) :=
  match characterFault? s with
  | some f => .error f
  | none =>
    let (ts, fault) := tokens s
    ((Grammar.onlyDocument (4 * ts.length + 8)).run ⟨ts, fault, Grammar.standardHandles, []⟩).map
      (·.1)

end CommitPolicy.Yaml
