import CommitPolicy.Proofs.Memo.Steps
import Mathlib.Data.List.DropRight

/-!
# Events of steps

What happens to a memo while steps are taken on it, as the answers to the steps tell: values are
found, computations start, values are stored, and the memo is cleared.  Steps inside of a
computation happen between its start and its end.  `MemoStep.moments` pairs the memo after every
step, also after the inner ones, with the events up to then.
-/

namespace CommitPolicy

/-- What happens to a memo. -/
inductive MemoEvent (V : Type) where
  /-- A stored value is given to a caller. -/
  | found (key : String)
  /-- The computation of a value starts. -/
  | started (key : String)
  /-- The computation of a value ends, and the value is stored. -/
  | stored (key : String) (value : V)
  | cleared

namespace MemoEvent

variable {V : Type}

/-- The key that is used: it is found, or its value is stored. -/
def used? : MemoEvent V → Option String
  | found key => some key
  | stored key _ => some key
  | _ => none

/-- The value that is stored, with its key. -/
def stored? : MemoEvent V → Option (String × V)
  | stored key value => some (key, value)
  | _ => none

def isFound : MemoEvent V → Bool
  | found _ => true
  | _ => false

def isStarted : MemoEvent V → Bool
  | started _ => true
  | _ => false

def isCleared : MemoEvent V → Bool
  | cleared => true
  | _ => false

/-- The events after the memo was last cleared. -/
def sinceCleared (past : List (MemoEvent V)) : List (MemoEvent V) :=
  past.rtakeWhile fun e => !e.isCleared

theorem sinceCleared_concat {e : MemoEvent V} (he : e.isCleared = false)
    (past : List (MemoEvent V)) :
  sinceCleared (past ++ [e]) = sinceCleared past ++ [e]
  := by
  rw [sinceCleared, List.rtakeWhile_concat_pos]
  · rfl
  · simp [he]

theorem sinceCleared_cleared (past : List (MemoEvent V)) :
  sinceCleared (past ++ [cleared]) = []
  := by
  rw [sinceCleared, List.rtakeWhile_concat_neg]
  simp [isCleared]

end MemoEvent

/-- The answers to the steps inside of a computation. -/
def MemoReport.inside {V : Type} : MemoReport V → List (MemoReport V)
  | computed _ _ reports _ => reports
  | _ => []

namespace MemoStep

variable {V : Type}

/-- The step by itself neither finds nor stores a value, and does not clear the memo: it only looks,
gives up waiting, or computes a value that is not to be kept or a failure. -/
inductive Passes : MemoStep V → MemoReport V → Prop
  | get {key : String} {report : MemoReport V} : Passes (.get key) report
  | contains {key : String} {report : MemoReport V} : Passes (.contains key) report
  | waited {key : String} {value : V} {keep : Bool} {fault : Option String}
      {inner : List (MemoStep V)} {e : Failure} {reports : List (MemoReport V)} {after : Memo V} :
      Passes (.compute key value keep fault inner) (.computed false (.error e) reports after)
  | notKept {key : String} {value : V} {fault : Option String} {inner : List (MemoStep V)}
      {result : Except Failure V} {reports : List (MemoReport V)} {after : Memo V} :
      Passes (.compute key value false fault inner) (.computed true result reports after)
  | failed {key : String} {value : V} {keep : Bool} {fault : Option String}
      {inner : List (MemoStep V)} {e : Failure} {reports : List (MemoReport V)} {after : Memo V} :
      Passes (.compute key value keep fault inner) (.computed true (.error e) reports after)

/-! ### Events -/

/-- The end of a computation: its value is stored, unless it failed or is not to be kept. -/
def endEvents (key : String) (keep : Bool) : Except Failure V → List (MemoEvent V)
  | .ok value => if keep then [.stored key value] else []
  | .error _ => []

mutual

/-- The events of a step that gave the report. -/
def events : MemoStep V → MemoReport V → List (MemoEvent V)
  | compute key _ _ _ _, .computed false (.ok _) _ _ => [.found key]
  | compute key _ keep _ inner, .computed true result reports _ =>
    .started key :: (eventsAll inner reports ++ endEvents key keep result)
  | clear, _ => [.cleared]
  | _, _ => []

/-- The events of steps one after the other. -/
def eventsAll : List (MemoStep V) → List (MemoReport V) → List (MemoEvent V)
  | step :: rest, report :: reports => events step report ++ eventsAll rest reports
  | _, _ => []

end

mutual

/-- The memo after each step inside of a step, with the events up to then; those in `past` were
before the step. -/
def momentsInside (past : List (MemoEvent V)) :
    MemoStep V → MemoReport V → List (List (MemoEvent V) × Memo V)
  | compute key _ _ _ inner, .computed _ _ reports _ =>
    moments (past ++ [.started key]) inner reports
  | _, _ => []

/-- The memo after each of several steps, and after each step inside of one of them, with the events
up to then. -/
def moments (past : List (MemoEvent V)) :
    List (MemoStep V) → List (MemoReport V) → List (List (MemoEvent V) × Memo V)
  | step :: rest, report :: reports =>
    momentsInside past step report
      ++ (past ++ events step report, report.after)
        :: moments (past ++ events step report) rest reports
  | _, _ => []

end

theorem moments_nil (past : List (MemoEvent V)) (steps : List (MemoStep V)) :
  moments past steps [] = []
  := by
  cases steps with
  | nil => rfl
  | cons step rest => rfl

end MemoStep

end CommitPolicy
