import CommitPolicy.Config.Value
import CommitPolicy.Failure
import CommitPolicy.ReadingLimits
import CommitPolicy.Text.Base64
import CommitPolicy.Text.Decimal
import CommitPolicy.Yaml.Node

/-!
# From nodes to values

A node becomes a value by its tag.  The mappings that a merge mark names come before the entries of
a mapping, so the mapping's own entries win.  The collections of a document are filled level by
level, so of several things that are wrong the one nearest to the root is reported.
-/

namespace CommitPolicy.Yaml

open Text

/-- Why a node has no value: a fault of the document, or a failure of its own. -/
inductive Trouble where
  | fault (f : Fault)
  | failure (f : Failure)

/-- Something that is wrong at a place. -/
def Trouble.at (problem : String) (mark : Mark) : Trouble := fault (.plain problem mark)

/-- Something that is wrong at a place in something that starts at another place. -/
def Trouble.inside (context : String) (start : Mark) (problem : String) (mark : Mark) : Trouble :=
  fault (.inside context start problem mark)

/-! ### Scalars -/

/-- The failure of a text that is no integer in a base. -/
def badInteger (base : Nat) (s : List Char) : Trouble :=
  .failure (.argument ("invalid literal for int() with base " ++ toString base ++ ": "
    ++ quoted (String.ofList s)))

/-- Reads an integer in a base. -/
def integerIn (base : Nat) (s : List Char) : Except Trouble Int :=
  match readIntegerIn? base s with
  | some n =>
    if base = 10 && maxDigits < s.length then
      .error (.failure (.argument (tooManyDigitsText s.length)))
    else .ok n
  | none => .error (badInteger base s)

/-- The value of parts of which sixty of one make one of the part before it. -/
def sixtieths (parts : List Int) : Int := parts.foldl (fun n d => n * 60 + d) 0

/-- The integer that a text without underscores and without its sign stands for. -/
def unsignedInteger (s : List Char) : Except Trouble Int :=
  match s with
  | ['0'] => .ok 0
  | '0' :: 'b' :: rest => integerIn 2 rest
  | '0' :: 'x' :: rest => integerIn 16 rest
  | '0' :: _ => integerIn 8 s
  | s =>
    if s.contains ':' then ((splitAt ':' s).mapM (integerIn 10)).map sixtieths
    else integerIn 10 s

/-- The integer that a text stands for. -/
def readInt (text : String) : Except Trouble Int :=
  match text.toList.filter (· != '_') with
  | [] => .error (.failure .emptyNumeral)
  | ['-'] | ['+'] => .error (.failure .emptyNumeral)
  | '-' :: rest => (unsignedInteger rest).map fun n => -n
  | s => unsignedInteger (dropSign s)

/-- Reads a floating-point number. -/
def floatOf (s : List Char) : Except Trouble Float :=
  match readFloat? (String.ofList s) with
  | some x => .ok x
  | none => .error (.failure (.argument
      ("could not convert string to float: " ++ quoted (String.ofList s))))

/-- The floating-point number that a text without underscores and without its sign stands for. -/
def unsignedFloat (s : List Char) : Except Trouble Float :=
  if s = ".inf".toList then .ok (1 / 0)
  else if s = ".nan".toList then .ok (0 / 0)
  else if s.contains ':' then do
    let parts ← (splitAt ':' s).mapM floatOf
    .ok ((parts.reverse.foldl
      (fun ((sum, base) : Float × Float) x => (sum + x * base, base * 60)) (0, 1)).1)
  else floatOf s

/-- The floating-point number that a text stands for. -/
def readDecimal (text : String) : Except Trouble Float :=
  match (text.toList.filter (· != '_')).map Char.toLower with
  | [] => .error (.failure .emptyNumeral)
  | '-' :: rest => (unsignedFloat rest).map fun x => -x
  | s => unsignedFloat (dropSign s)

/-- The bytes that a text in base 64 stands for, in a node at a place. -/
def readBinary (mark : Mark) (text : String) : Except Trouble Value :=
  if text.toList.any fun c => 127 < c.toNat then
    .error (.at "failed to convert base64 data into ascii" mark)
  else
    match decodeBase64 text.toList with
    | .ok bytes => .ok (.bytes bytes)
    | .error problem => .error (.at ("failed to decode base64 data: " ++ problem) mark)

/-- The moment that a text stands for. -/
def readMoment (text : String) : Except Trouble Value :=
  match Moment.read? text.toList with
  | none => .error (.failure .notMoment)
  | some m =>
    match m.fault? with
    | some problem => .error (.failure (.argument problem))
    | none => .ok .moment

/-- The truth value that a text stands for. -/
def readTruth (text : String) : Except Trouble Value :=
  match truthValues.lookup (toLower text) with
  | some b => .ok (.bool b)
  | none => .error (.failure .unknownTruthValue)

namespace Node

/-- The text of a scalar, or of the default value of a mapping; at most `fuel` defaults are looked
up. -/
def textOf : Nat → Node → Except Trouble String
  | _, scalar _ text _ => .ok text
  | fuel + 1, mapping _ entries start =>
    match entries.find? fun e => e.1.tag == standardTag "value" with
    | some (_, value) => textOf fuel value
    | none => .error (.at "expected a scalar node, but found mapping" start)
  | _, n => .error (.at ("expected a scalar node, but found " ++ n.label) n.start)

/-! ### Merging -/

/-- A node with another tag. -/
def withTag (t : String) : Node → Node
  | scalar _ text m => scalar t text m
  | sequence _ items m => sequence t items m
  | mapping _ entries m => mapping t entries m

/-- The entries of a mapping that starts at `start`, those that are merged into it first; of several
mappings that are merged, those of the last one come first. -/
def flatten (start : Mark) (entries : List (Node × Node)) :
    Nat → Except Trouble (List (Node × Node))
  | 0 => .ok entries
  | fuel + 1 => do
    let parts ← entries.mapM fun ((key, value) : Node × Node) =>
      if key.tag == standardTag "merge" then
        match value with
        | mapping _ entries m => (flatten m entries fuel).map fun merged => (merged, [])
        | sequence _ items _ => do
          let merged ← items.mapM fun (n : Node) =>
            match n with
            | mapping _ entries m => flatten m entries fuel
            | n => .error (.inside "while constructing a mapping" start
                ("expected a mapping for merging, but found " ++ n.label) n.start)
          .ok (merged.reverse.flatten, [])
        | n => .error (.inside "while constructing a mapping" start
            ("expected a mapping or list of mappings for merging, but found " ++ n.label) n.start)
      else
        let key := if key.tag == standardTag "value" then key.withTag (standardTag "str") else key
        .ok ([], [(key, value)])
    .ok (parts.flatMap (·.1) ++ parts.flatMap (·.2))

end Node

/-! ### Collections -/

/-- Whether a value can be a key: collections cannot. -/
def isKeyValue : Value → Bool
  | .list _ | .set _ | .map _ => false
  | _ => true

/-- The number that a value counts as when keys are compared. -/
def keyNumber? : Value → Option Float
  | .bool b => some (if b then 1 else 0)
  | .int n => some (Float.ofInt n)
  | .float x => some x
  | _ => none

/-- Whether two values are the same key. -/
def sameKey : Value → Value → Bool
  | .text s, .text t => s == t
  | .null, .null => true
  | .bytes b, .bytes c => b == c
  | .int m, .int n => m == n
  | v, w =>
    match keyNumber? v, keyNumber? w with
    | some x, some y => x == y
    | _, _ => false

/-- The entries with a value put under a key: in the place of the key if it is there, and else at
the end. -/
def putEntry (entries : List (Value × Value)) (key value : Value) : List (Value × Value) :=
  if entries.any fun e => sameKey e.1 key then
    entries.map fun e => if sameKey e.1 key then (e.1, value) else e
  else entries ++ [(key, value)]

/-- A value, and the troubles met with on the way, each with its level. -/
abbrev Built (α : Type) := α × List (Nat × Trouble)

/-- A value that is no collection. -/
def Built.ofScalar (level : Nat) : Except Trouble Value → Built Value
  | .ok v => (v, [])
  | .error t => (.null, [(level, t)])

/-- A single trouble. -/
def Built.failed {α : Type} (level : Nat) (t : Trouble) (v : α) : Built α := (v, [(level, t)])

namespace Node

mutual

/-- The value of a node at a level of the document; the tree is at most `fuel` levels high. -/
def build (level : Nat) (n : Node) : Nat → Built Value
  | 0 => (.null, [])
  | fuel + 1 =>
    let start := n.start
    let fromText (read : String → Except Trouble Value) : Built Value :=
      .ofScalar level ((n.textOf (fuel + 1)).bind read)
    match (n.tag.dropPrefix? tagBase).map fun s => s.toString with
    | some "null" => fromText fun _ => .ok .null
    | some "bool" => fromText readTruth
    | some "int" => fromText fun s => (readInt s).map .int
    | some "float" => fromText fun s => (readDecimal s).map .float
    | some "binary" => fromText (readBinary start)
    | some "timestamp" => fromText readMoment
    | some "str" => fromText fun s => .ok (.text s)
    | some "seq" =>
      match n with
      | sequence _ items _ =>
        let (vs, ts) := buildAll (level + 1) items fuel
        (.list vs, ts)
      | n => .failed (level + 1)
          (.at ("expected a sequence node, but found " ++ n.label) start) (.list [])
    | some "map" =>
      let (entries, ts) := buildMapping (level + 1) n fuel
      (.map entries, ts)
    | some "set" =>
      let (entries, ts) := buildMapping (level + 1) n fuel
      (.set (entries.map (·.1)), ts)
    | some "omap" =>
      let (vs, ts) := buildPairs (level + 1) "an ordered map" n fuel
      (.list vs, ts)
    | some "pairs" =>
      let (vs, ts) := buildPairs (level + 1) "pairs" n fuel
      (.list vs, ts)
    | _ => .failed level
        (.at ("could not determine a constructor for the tag " ++ quoted n.tag) start) .null
termination_by structural fuel => fuel

/-- The values of nodes at a level. -/
def buildAll (level : Nat) (ns : List Node) : Nat → Built (List Value)
  | 0 => ([], [])
  | fuel + 1 =>
    let built := ns.map fun n => build level n fuel
    (built.map (·.1), built.flatMap (·.2))
termination_by structural fuel => fuel

/-- The entries of a mapping. -/
def buildMapping (level : Nat) (n : Node) : Nat → Built (List (Value × Value))
  | 0 => ([], [])
  | fuel + 1 =>
    match n with
    | mapping _ entries start =>
      match flatten start entries (fuel + 1) with
      | .error t => .failed level t []
      | .ok entries =>
        entries.foldl (fun ((done, ts) : Built (List (Value × Value))) (k, v) =>
          let (key, ts₁) := build level k fuel
          let ts₂ :=
            if isKeyValue key then []
            else [(level, .inside "while constructing a mapping" start "found unhashable key" k.start)]
          let (value, ts₃) := build level v fuel
          (putEntry done key value, ts ++ ts₁ ++ ts₂ ++ ts₃)) ([], [])
    | n => .failed level (.at ("expected a mapping node, but found " ++ n.label) n.start) []
termination_by structural fuel => fuel

/-- The pairs of a sequence of mappings with one entry each. -/
def buildPairs (level : Nat) (what : String) (n : Node) : Nat → Built (List Value)
  | 0 => ([], [])
  | fuel + 1 =>
    let refuse (problem : String) (m : Mark) : Built (List Value) :=
      .failed level (.inside ("while constructing " ++ what) n.start problem m) []
    match n with
    | sequence _ items _ =>
      let built := items.map fun item : Node =>
        match item with
        | mapping _ [(k, v)] _ =>
          let (key, ts₁) := build level k fuel
          let (value, ts₂) := build level v fuel
          ([Value.pair key value], ts₁ ++ ts₂)
        | mapping _ entries m =>
          refuse ("expected a single mapping item, but found " ++ toString entries.length ++ " items") m
        | n => refuse ("expected a mapping of length 1, but found " ++ n.label) n.start
      (built.flatMap (·.1), built.flatMap (·.2))
    | n => refuse ("expected a sequence, but found " ++ n.label) n.start
termination_by structural fuel => fuel

end

mutual

/-- The number of levels of a tree. -/
def height : Node → Nat
  | scalar _ _ _ => 1
  | sequence _ items _ => heightAll items + 1
  | mapping _ entries _ => heightPairs entries + 1

/-- The number of levels of the highest of trees. -/
def heightAll : List Node → Nat
  | [] => 0
  | n :: rest => max n.height (heightAll rest)

/-- The number of levels of the highest of trees in pairs. -/
def heightPairs : List (Node × Node) → Nat
  | [] => 0
  | (k, v) :: rest => max (max k.height v.height) (heightPairs rest)

end

/-- The trouble nearest to the root, the first one of several. -/
def firstTrouble : List (Nat × Trouble) → Option Trouble
  | [] => none
  | (level, t) :: rest =>
    if rest.any fun other => other.1 < level then firstTrouble rest else some t

/-- The value of a document. -/
def value (n : Node) : Except Trouble Value :=
  match n.build 0 (2 * n.height + 2) with
  | (v, ts) =>
    match firstTrouble ts with
    | some t => .error t
    | none => .ok v

end Node

/-- The failure of a fault in the file called `path`. -/
def Fault.failure (path : String) (f : Fault) : Failure :=
  match f with
  | codePoint n =>
    if n < 0x80000000 then .argument "chr() arg not in range(0x110000)" else .overflow
  | tooManyDigits n => .argument (tooManyDigitsText n)
  | f => .config (.malformedYaml path (f.text path))

/-- The failure of a reader that stops early in the file called `path`. -/
def EarlyStop.failure (path : String) : EarlyStop → Failure
  | fault f => f.failure path
  | tooDeep => .tooDeep

/-- The value of the only document in the text of the file called `path`; without a document it is
null. -/
def readDocument [ReadingLimits] (path text : String) : Except Failure Value :=
  if ReadingLimits.exhaustsYaml text then .error .tooDeep
  else
    match Node.ofText text.toList with
    | .error f => .error (f.failure path)
    | .ok none => .ok .null
    | .ok (some n) =>
      match n.value with
      | .ok v => .ok v
      | .error (.fault f) => .error (f.failure path)
      | .error (.failure f) => .error f

end CommitPolicy.Yaml
