import CommitPolicy.Memo.Basic

/-!
# Steps on a memo

A run of one caller on a memo, in which a computation can itself take steps on the memo.  The key of
a computation is in flight during its steps, so a request for that key among them can only give up
waiting.
-/

namespace CommitPolicy

/-- A step on a memo. -/
inductive MemoStep (V : Type) where
  /-- Asks for the value of a key.  If it has to be computed, the steps `inner` are taken and then
  the computation fails with the text `fault`, if there is one, or gives `value`, which is stored if
  `keep` holds. -/
  | compute (key : String) (value : V) (keep : Bool) (fault : Option String)
      (inner : List (MemoStep V))
  | get (key : String)
  | contains (key : String)
  | clear

/-- What a step gives, and the memo after it. -/
inductive MemoReport (V : Type) where
  | computed (ran : Bool) (result : Except Failure V) (inner : List (MemoReport V)) (after : Memo V)
  | got (value : Option V) (after : Memo V)
  | contained (present : Bool) (after : Memo V)
  | cleared (after : Memo V)

namespace MemoReport

variable {V : Type}

/-- The memo after a step. -/
def after : MemoReport V → Memo V
  | computed _ _ _ m => m
  | got _ m => m
  | contained _ m => m
  | cleared m => m

end MemoReport

namespace MemoStep

variable {V : Type}

/-- The memo after steps that were taken from `m`. -/
def lastOf (m : Memo V) (reports : List (MemoReport V)) : Memo V :=
  (reports.getLast?.map (·.after)).getD m

/-- The end of a computation: the result and the memo, `m` being the memo after the inner steps. -/
def conclude (m : Memo V) (key : String) (value : V) (keep : Bool) :
    Option String → Except Failure V × Memo V
  | some text => (.error (.computation text), m.release key)
  | none => (.ok value, if keep then m.settle key value else m.release key)

mutual

/-- Takes a step. -/
def run (m : Memo V) : MemoStep V → MemoReport V
  | compute key value keep fault inner =>
    match m.enter key with
    | (.hit stored, m) => .computed false (.ok stored) [] m
    | (.wait, m) => .computed false (.error (.waitedTooLong key)) [] m
    | (.lead, m) =>
      let reports := runAll m inner
      let (result, m) := conclude (lastOf m reports) key value keep fault
      .computed true result reports m
  | get key => .got (m.get? key) m
  | contains key => .contained (m.contains key) m
  | clear => .cleared m.clear

/-- Takes steps one after the other. -/
def runAll (m : Memo V) : List (MemoStep V) → List (MemoReport V)
  | [] => []
  | step :: rest =>
    let report := run m step
    report :: runAll report.after rest

end

end MemoStep

end CommitPolicy
