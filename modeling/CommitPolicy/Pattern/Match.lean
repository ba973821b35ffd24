import CommitPolicy.Pattern.Node

/-!
# Matching

`Node.run` matches a tree at a place of a text by trying the possibilities in order.  What comes
after the tree is a function from the state reached to a final state, if there is one; the tree
offers it one state after the other until it succeeds.  An iteration of an unbounded repetition
that did not move ends the repetition, which bounds the number of iterations.
-/

namespace CommitPolicy.Pattern

/-- The start and the end that a group last had. -/
structure Mark where
  start : Option Nat
  stop : Option Nat

/-- A place in the text, and what the groups matched on the way to it. -/
structure State where
  place : Nat
  marks : List (Nat × Mark)

namespace State

/-- The mark of a group. -/
def mark (s : State) (index : Nat) : Mark := (s.marks.lookup index).getD ⟨none, none⟩

/-- Sets the mark of a group. -/
def setMark (s : State) (index : Nat) (m : Mark) : State :=
  { s with marks := (index, m) :: s.marks.filter (·.1 != index) }

/-- The group opens here. -/
def openGroup (s : State) (index : Nat) : State :=
  s.setMark index ⟨some s.place, (s.mark index).stop⟩

/-- The group closes here. -/
def closeGroup (s : State) (index : Nat) : State :=
  s.setMark index ⟨(s.mark index).start, some s.place⟩

/-- The start and the end of what the group matched, if it has matched. -/
def span? (s : State) (index : Nat) : Option (Nat × Nat) :=
  match s.mark index with
  | ⟨some start, some stop⟩ => if start ≤ stop then some (start, stop) else none
  | _ => none

end State

/-- What comes after a tree. -/
abbrev Next := State → Option State

/-- Whether a place is at a word character. -/
def wordAt (text : Array Char) (ascii : Bool) (n : Nat) : Bool :=
  match text[n]? with
  | some c => Category.word.holds ascii c
  | none => false

/-- Whether a place is as the anchor asks. -/
def Anchor.holds (text : Array Char) (n : Nat) : Anchor → Bool
  | textStart => n == 0
  | lineStart => n == 0 || text[n - 1]? == some '\n'
  | textEnd => n == text.size
  | lastLineEnd => n == text.size || (n + 1 == text.size && text[n]? == some '\n')
  | lineEnd => n == text.size || text[n]? == some '\n'
  | wordBoundary negated ascii =>
    !text.isEmpty
      && ((0 < n && wordAt text ascii (n - 1)) != wordAt text ascii n) != negated

/-- Whether the iteration number `count` is allowed under the upper bound. -/
def allows (max : Option Nat) (count : Nat) : Bool :=
  match max with
  | none => true
  | some m => count < m

/-- Repeats `step`, as often as possible first. -/
def runGreedy (step : State → Next → Option State) (min : Nat) (max : Option Nat) (next : Next) :
    Nat → Nat → Option Nat → Next
  | 0, _, _, s => next s
  | fuel + 1, count, last, s =>
    if count < min then step s (runGreedy step min max next fuel (count + 1) last)
    else if allows max count && last != some s.place then
      (step s (runGreedy step min max next fuel (count + 1) (some s.place))).or (next s)
    else next s

/-- Repeats `step`, as rarely as possible first. -/
def runLazy (step : State → Next → Option State) (min : Nat) (max : Option Nat) (next : Next) :
    Nat → Nat → Option Nat → Next
  | 0, _, _, s => next s
  | fuel + 1, count, last, s =>
    if count < min then step s (runLazy step min max next fuel (count + 1) last)
    else
      match next s with
      | some r => some r
      | none =>
        if allows max count && last != some s.place then
          step s (runLazy step min max next fuel (count + 1) (some s.place))
        else none

/-- Repeats `step` as often as possible, each time in the way that succeeds first. -/
def runPossessive (step : State → Next → Option State) (min : Nat) (max : Option Nat) :
    Nat → Nat → State → Option State
  | 0, _, s => some s
  | fuel + 1, count, s =>
    if count < min then
      match step s some with
      | some t => runPossessive step min max fuel (count + 1) t
      | none => none
    else if allows max count then
      match step s some with
      | some t =>
        if t.place = s.place then some t else runPossessive step min max fuel (count + 1) t
      | none => some s
    else some s

/-- The number of characters from a place on that pass a test, at most `limit`. -/
def runLength (text : Array Char) (test : CharTest) : Nat → Nat → Nat
  | 0, _ => 0
  | limit + 1, n =>
    match text[n]? with
    | some c => if test.holds c then runLength text test limit (n + 1) + 1 else 0
    | none => 0

/-- Offers `next` the places `extra`, `extra - 1`, …, 0 characters after `base`. -/
def tryDown (next : Next) (s : State) (base : Nat) : Nat → Option State
  | 0 => next { s with place := base }
  | extra + 1 =>
    (next { s with place := base + (extra + 1) }).or (tryDown next s base extra)

/-- Offers `next` the places `base`, `base + 1`, …, `base + extra`. -/
def tryUp (next : Next) (s : State) (base : Nat) : Nat → Option State
  | 0 => next { s with place := base }
  | extra + 1 => (next { s with place := base }).or (tryUp next s (base + 1) extra)

/-- Repeats a test of one character. -/
def runChars (text : Array Char) (greed : Greed) (min : Nat) (max : Option Nat) (test : CharTest)
    (s : State) (next : Next) : Option State :=
  let room := text.size - s.place
  let most := runLength text test (match max with | some m => Nat.min m room | none => room) s.place
  if most < min then none
  else
    match greed with
    | .greedy => tryDown next s (s.place + min) (most - min)
    | .lazy => tryUp next s (s.place + min) (most - min)
    | .possessive => next { s with place := s.place + most }

/-- Whether two characters agree in a back-reference. -/
def CaseRule.agree (rule : CaseRule) (a b : Char) : Bool := rule.fold a == rule.fold b

/-- Whether the `length` characters from `n` on agree with those from `m` on. -/
def sameText (text : Array Char) (rule : CaseRule) (m n : Nat) : Nat → Bool
  | 0 => true
  | length + 1 =>
    match text[m]?, text[n]? with
    | some a, some b => rule.agree a b && sameText text rule (m + 1) (n + 1) length
    | _, _ => false

/-- Matches a tree from a state on and goes on with `next`. -/
def Node.run (text : Array Char) : Node → State → Next → Option State
  | .empty, s, next => next s
  | .char test, s, next =>
    match text[s.place]? with
    | some c => if test.holds c then next { s with place := s.place + 1 } else none
    | none => none
  | .anchor a, s, next => if a.holds text s.place then next s else none
  | .cat a b, s, next => a.run text s fun t => b.run text t next
  | .alt a b, s, next => (a.run text s next).or (b.run text s next)
  | .group index a, s, next =>
    a.run text (s.openGroup index) fun t => next (t.closeGroup index)
  | .rep greed min max (.char test), s, next => runChars text greed min max test s next
  | .rep .greedy min max a, s, next =>
    runGreedy (a.run text) min max next (min + (text.size - s.place) + 2) 0 none s
  | .rep .lazy min max a, s, next =>
    runLazy (a.run text) min max next (min + (text.size - s.place) + 2) 0 none s
  | .rep .possessive min max a, s, next =>
    (runPossessive (a.run text) min max (min + (text.size - s.place) + 2) 0 s).bind next
  | .atomic a, s, next => (a.run text s some).bind next
  | .look behind negated a, s, next =>
    let back := if behind then a.width.lo else 0
    let found := if s.place < back then none else a.run text { s with place := s.place - back } some
    match found, negated with
    | some t, false => next { t with place := s.place }
    | none, true => next s
    | _, _ => none
  | .backref index rule _, s, next =>
    match s.span? index with
    | none => none
    | some (start, stop) =>
      if sameText text rule start s.place (stop - start) then
        next { s with place := s.place + (stop - start) }
      else none
  | .cond index yes no, s, next =>
    if (s.span? index).isSome then yes.run text s next else no.run text s next

/-- Whether a tree matches at one of the places `n`, `n + 1`, …, `n + more`. -/
def Node.foundFrom (text : Array Char) (node : Node) (n : Nat) : Nat → Bool
  | 0 => (node.run text ⟨n, []⟩ some).isSome
  | more + 1 => (node.run text ⟨n, []⟩ some).isSome || node.foundFrom text (n + 1) more

/-- Whether a tree matches anywhere in a text. -/
def Node.found (node : Node) (text : Array Char) : Bool := node.foundFrom text 0 text.size

end CommitPolicy.Pattern
