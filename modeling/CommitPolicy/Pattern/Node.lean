import CommitPolicy.Pattern.CharTest
import CommitPolicy.Pattern.Fault

/-!
# Pattern trees

The tree of a pattern, with the modes that were in force at each place already applied, and the
range of lengths that a tree can match.  `Node.check` refuses what the grammar allows and matching
does not: a look-behind whose length is not fixed.
-/

namespace CommitPolicy.Pattern

/-- A place that a pattern can ask for. -/
inductive Anchor where
  | textStart
  | lineStart
  | textEnd
  /-- The end of the text, or the place before a line feed that ends it. -/
  | lastLineEnd
  | lineEnd
  /-- The start or the end of a word, or any other place if negated. -/
  | wordBoundary (negated ascii : Bool)
  deriving DecidableEq, Repr

/-- How many repetitions are tried first, and whether fewer or more are tried later. -/
inductive Greed where
  | greedy
  | lazy
  | possessive
  deriving DecidableEq, Repr

/-- The lengths that something can match, both ends included. -/
structure Width where
  lo : Nat
  hi : Nat
  deriving DecidableEq, Repr

namespace Width

/-- Widths are capped here. -/
def cap : Nat := 0x10000000000000000

/-- One after the other. -/
def add (a b : Width) : Width := ⟨min cap (a.lo + b.lo), min cap (a.hi + b.hi)⟩

/-- One or the other. -/
def union (a b : Width) : Width := ⟨min a.lo b.lo, max a.hi b.hi⟩

/-- So many times; no upper bound means any number of times. -/
def times (a : Width) (lo : Nat) : Option Nat → Width
  | none => ⟨min cap (a.lo * lo), if a.hi = 0 then 0 else cap⟩
  | some hi => ⟨min cap (a.lo * lo), min cap (a.hi * hi)⟩

end Width

/-- A pattern tree. -/
inductive Node where
  | empty
  | char (test : CharTest)
  | anchor (a : Anchor)
  | cat (a b : Node)
  | alt (a b : Node)
  /-- A group that remembers what it matched. -/
  | group (index : Nat) (a : Node)
  | rep (greed : Greed) (min : Nat) (max : Option Nat) (a : Node)
  /-- Matches as its content first matches, and in no other way. -/
  | atomic (a : Node)
  | look (behind negated : Bool) (a : Node)
  /-- What a group matched; the width is the group's. -/
  | backref (index : Nat) (rule : CaseRule) (width : Width)
  /-- One of two trees, as the group has matched or not. -/
  | cond (index : Nat) (yes no : Node)
  deriving DecidableEq, Repr

namespace Node

/-- The lengths that a tree can match. -/
def width : Node → Width
  | empty => ⟨0, 0⟩
  | char _ => ⟨1, 1⟩
  | anchor _ => ⟨0, 0⟩
  | cat a b => a.width.add b.width
  | alt a b => a.width.union b.width
  | group _ a => a.width
  | rep _ min max a => a.width.times min max
  | atomic a => a.width
  | look _ _ _ => ⟨0, 0⟩
  | backref _ _ w => w
  | cond _ yes no => yes.width.union no.width

/-- The largest length that a look-behind can go back. -/
def maxLookBehind : Nat := 0xFFFFFFFF

/-- The name under which a repetition is refused in a template. -/
def Greed.operator : Greed → String
  | .greedy => "MAX_REPEAT"
  | .lazy => "MIN_REPEAT"
  | .possessive => "POSSESSIVE_REPEAT"

/-- The first fault of a tree, in reading order.  In a template nothing may repeat. -/
def check (template : Bool) : Node → Option Fault
  | cat a b => (a.check template).or (b.check template)
  | alt a b => (a.check template).or (b.check template)
  | group _ a => a.check template
  | rep g _ _ a =>
    if template then some (.repeatInTemplate (Greed.operator g)) else a.check template
  | atomic a => a.check template
  | look behind _ a =>
    if behind && maxLookBehind < a.width.lo then some .looksTooFarBehind
    else if behind && a.width.lo != a.width.hi then some .variableLookBehind
    else a.check template
  | cond _ yes no => (yes.check template).or (no.check template)
  | _ => none

/-- The trees one after the other. -/
def concat : List Node → Node
  | [] => empty
  | [a] => a
  | a :: rest => cat a (concat rest)

/-- The trees as alternatives, the first one tried first. -/
def choice : List Node → Node
  | [] => empty
  | [a] => a
  | a :: rest => alt a (choice rest)

end Node

end CommitPolicy.Pattern
