import CommitPolicy.Proofs.Memo.Entries
import Mathlib.Logic.Function.Basic
import Mathlib.Logic.Relation

/-!
# Callers that share a memo

Any number of callers use a memo at the same time.  `SharedMemo.Step` lists the steps that one of
them can take while the others stand still: a caller enters the memo and finds a value, starts to
wait or leads; a leader gives back its key, and after that sets the event that the others wait for;
a caller that waits is woken up by the event, or gives up.  A caller makes one request, so a thread
that makes several counts as several callers.  It is shown what each step changes, that only a caller
that waited too long is refused, and that any request can be let in next.
-/

namespace CommitPolicy

/-! ### Requests and callers -/

/-- A request for the value of a key. -/
structure Request (V : Type) where
  key : String
  /-- The values that its computation can give. -/
  gives : V → Prop
  /-- Whether a value is stored once it is computed. -/
  keeps : V → Bool
  /-- The number of seconds to wait for another caller; any time if it is missing. -/
  timeout : Option Float

/-- What a caller is doing. -/
inductive Phase (V : Type) where
  | idle
  /-- It is about to enter the memo, for the first time or after it was woken up. -/
  | entering (r : Request V)
  /-- It waits until an event is set. -/
  | waiting (r : Request V) (event : Nat)
  /-- It leads, and others wait for the event. -/
  | computing (r : Request V) (event : Nat)
  /-- It has given back the key, but the event is not set yet. -/
  | ending (r : Request V) (event : Nat) (result : Except Failure V)
  /-- It has an answer; `ran` says whether it led. -/
  | answered (r : Request V) (ran : Bool) (result : Except Failure V)
  /-- It has looked for a stored value. -/
  | got (key : String) (value : Option V)
  /-- It has asked whether a value is stored. -/
  | told (key : String) (present : Bool)

namespace Phase

variable {V : Type}

/-- The request that a caller has made. -/
def request? : Phase V → Option (Request V)
  | entering r => some r
  | waiting r _ => some r
  | computing r _ => some r
  | ending r _ _ => some r
  | answered r _ _ => some r
  | _ => none

/-- The key that a caller leads, and the event of the key. -/
def leads? : Phase V → Option (String × Nat)
  | computing r event => some (r.key, event)
  | _ => none

/-- The event that a caller has to set, and its key. -/
def owes? : Phase V → Option (String × Nat)
  | computing r event => some (r.key, event)
  | ending r event _ => some (r.key, event)
  | _ => none

/-- The event that a caller waits for, and its key. -/
def awaits? : Phase V → Option (String × Nat)
  | waiting r event => some (r.key, event)
  | _ => none

/-- The value that a caller has computed, and its request. -/
def computed? : Phase V → Option (Request V × V)
  | ending r _ (.ok value) => some (r, value)
  | answered r true (.ok value) => some (r, value)
  | _ => none

/-- The failure of a caller that did not lead, and its key. -/
def refusal? : Phase V → Option (String × Failure)
  | answered r false (.error e) => some (r.key, e)
  | _ => none

/-- The value that a caller was given without computing it, and its key. -/
def received? : Phase V → Option (String × V)
  | answered r false (.ok value) => some (r.key, value)
  | got key (some value) => some (key, value)
  | _ => none

end Phase

/-- A memo with the callers that share it. -/
structure SharedMemo (V : Type) where
  memo : Memo V
  /-- The event of a key that is in flight. -/
  eventOf : String → Nat
  /-- The number of events that were made; they are numbered from zero on. -/
  events : Nat
  isSet : Nat → Bool
  phase : Nat → Phase V

namespace SharedMemo

variable {V : Type}

/-- A memo that no caller uses yet. -/
def start (m : Memo V) : SharedMemo V := ⟨m, fun _ => 0, 0, fun _ => false, fun _ => .idle⟩

/-- The caller goes on to another phase. -/
def move (s : SharedMemo V) (caller : Nat) (p : Phase V) : SharedMemo V :=
  { s with phase := Function.update s.phase caller p }

/-- The caller is let in and finds a value, starts to wait, or leads under a new event. -/
def letIn (s : SharedMemo V) (caller : Nat) (r : Request V) : Admission V × Memo V → SharedMemo V
  | (.hit value, m) => { s with memo := m }.move caller (.answered r false (.ok value))
  | (.wait, m) => { s with memo := m }.move caller (.waiting r (s.eventOf r.key))
  | (.lead, m) =>
    { s with
      memo := m
      eventOf := Function.update s.eventOf r.key s.events
      events := s.events + 1 }.move caller (.computing r s.events)

/-- The caller gives back its key, `m` being the memo after that. -/
def giveBack (s : SharedMemo V) (caller : Nat) (r : Request V) (event : Nat)
    (result : Except Failure V) (m : Memo V) : SharedMemo V :=
  { s with memo := m }.move caller (.ending r event result)

/-- The caller sets its event and has its answer. -/
def signal (s : SharedMemo V) (caller : Nat) (r : Request V) (event : Nat)
    (result : Except Failure V) : SharedMemo V :=
  { s with isSet := Function.update s.isSet event true }.move caller (.answered r true result)

/-- What a caller can do by itself, the phases being those that it goes on to; `asks` are the
requests that callers can make, each of them one.  A caller that waits for an event may give up even
though the event has just been set. -/
inductive Turn (asks : Nat → Request V → Prop) (s : SharedMemo V) (caller : Nat) : Phase V → Prop
  | call {r : Request V} (hphase : s.phase caller = .idle) (hasks : asks caller r) :
      Turn asks s caller (.entering r)
  | wake {r : Request V} {event : Nat} (hphase : s.phase caller = .waiting r event)
      (hset : s.isSet event = true) :
      Turn asks s caller (.entering r)
  | giveUp {r : Request V} {event : Nat} (hphase : s.phase caller = .waiting r event)
      (htimeout : r.timeout ≠ none) :
      Turn asks s caller (.answered r false (.error (.waitedTooLong r.key)))
  | get (hphase : s.phase caller = .idle) (key : String) :
      Turn asks s caller (.got key (s.memo.get? key))
  | contains (hphase : s.phase caller = .idle) (key : String) :
      Turn asks s caller (.told key (s.memo.contains key))

/-- How the computation for a request ends: with a value that is stored, with one that is not, or
with a failure.  The memo is the one after the key was given back. -/
inductive Ends (m : Memo V) (r : Request V) : Except Failure V → Memo V → Prop
  | store {value : V} (hgives : r.gives value) (hkeeps : r.keeps value = true) :
      Ends m r (.ok value) (m.settle r.key value)
  | pass {value : V} (hgives : r.gives value) (hkeeps : r.keeps value = false) :
      Ends m r (.ok value) (m.release r.key)
  | fail (text : String) : Ends m r (.error (.computation text)) (m.release r.key)

/-- The steps of callers.  A caller may take any time between its steps, while others take
theirs. -/
inductive Step (asks : Nat → Request V → Prop) (s : SharedMemo V) : SharedMemo V → Prop
  | turn {caller : Nat} {p : Phase V} (hturn : s.Turn asks caller p) : Step asks s (s.move caller p)
  | enter {caller : Nat} {r : Request V} (hphase : s.phase caller = .entering r) :
      Step asks s (s.letIn caller r (s.memo.enter r.key))
  | giveBack {caller event : Nat} {r : Request V} {result : Except Failure V} {m : Memo V}
      (hphase : s.phase caller = .computing r event) (hends : Ends s.memo r result m) :
      Step asks s (s.giveBack caller r event result m)
  | signal {caller event : Nat} {r : Request V} {result : Except Failure V}
      (hphase : s.phase caller = .ending r event result) :
      Step asks s (s.signal caller r event result)
  | clear : Step asks s { s with memo := s.memo.clear }

/-- The states that callers of a memo come to. -/
def Reachable (asks : Nat → Request V → Prop) (m : Memo V) (s : SharedMemo V) : Prop :=
  Relation.ReflTransGen (Step asks) (start m) s

variable {asks : Nat → Request V → Prop} {m : Memo V} {s t : SharedMemo V} {caller event : Nat}
  {r : Request V} {p : Phase V}

/-! ### Views of a phase -/

theorem Phase.owes?_of_leads? {x : String × Nat} (h : p.leads? = some x) :
  p.owes? = some x
  := by
  cases p with
  | computing r event => apply h
  | _ => cases h

theorem leads?_eq_none (h : p.owes? = none) :
  p.leads? = none
  := by
  cases p with
  | computing r event => cases h
  | _ => rfl

theorem request?_of_computed? {value : V} (h : p.computed? = some (r, value)) :
  p.request? = some r
  := by
  cases p with
  | ending r' event result =>
      cases result with
      | error e => cases h
      | ok v =>
          cases h
          rfl
  | answered r' ran result =>
      cases ran with
      | false => cases h
      | true =>
          cases result with
          | error e => cases h
          | ok v =>
              cases h
              rfl
  | _ => cases h

section View

variable {α : Type} {view : Phase V → Option α} {phase : Nat → Phase V} {c : Nat} {x : α}

/-- A caller that goes on to a phase in which a view is missing does not add to the view. -/
theorem of_view_update (hp : view p = none)
    (h : view (Function.update phase caller p c) = some x) :
  c ≠ caller ∧ view (phase c) = some x
  := by
  rw [Function.update_apply] at h
  split at h
  · rw [hp] at h
    cases h
  · next hc => use hc, h

/-- A caller that goes on to a phase in which a view is what it was does not take from the view. -/
theorem view_update_of_view (hp : ∀ x, view (phase caller) = some x → view p = some x)
    (h : view (phase c) = some x) :
  view (Function.update phase caller p c) = some x
  := by
  rw [Function.update_apply]
  split
  · next hc =>
    subst hc
    apply hp x h
  · apply h

end View

/-! ### What a step changes -/

section Turn

variable (h : s.Turn asks caller p)
include h

theorem Turn.owes?_eq_none :
  (s.phase caller).owes? = none ∧ p.owes? = none
  := by
  cases h with
  | call hphase => simp [hphase, Phase.owes?]
  | wake hphase => simp [hphase, Phase.owes?]
  | giveUp hphase => simp [hphase, Phase.owes?]
  | get hphase => simp [hphase, Phase.owes?]
  | contains hphase => simp [hphase, Phase.owes?]

theorem Turn.awaits?_eq_none :
  p.awaits? = none
  := by
  cases h <;> rfl

theorem Turn.computed?_eq_none :
  (s.phase caller).computed? = none ∧ p.computed? = none
  := by
  cases h with
  | call hphase => simp [hphase, Phase.computed?]
  | wake hphase => simp [hphase, Phase.computed?]
  | giveUp hphase => simp [hphase, Phase.computed?]
  | get hphase => simp [hphase, Phase.computed?]
  | contains hphase => simp [hphase, Phase.computed?]

/-- The only value that a caller gets by itself is a stored one. -/
theorem Turn.get?_eq_some {key : String} {value : V} (hp : p.received? = some (key, value)) :
  s.memo.get? key = some value
  := by
  cases h with
  | get hphase k =>
      cases hget : s.memo.get? k with
      | none =>
          rw [hget] at hp
          cases hp
      | some v =>
          rw [hget] at hp
          cases hp
          apply hget
  | _ => cases hp

theorem Turn.waitedTooLong {key : String} {e : Failure} (hp : p.refusal? = some (key, e)) :
  e = .waitedTooLong key
  := by
  cases h with
  | giveUp =>
      cases hp
      rfl
  | _ => cases hp

theorem Turn.asks_or_request? (hp : p.request? = some r) :
  asks caller r ∨ (s.phase caller).request? = some r
  := by
  cases h with
  | call hphase hasks =>
      cases hp
      apply Or.inl hasks
  | wake hphase =>
      cases hp
      simp [hphase, Phase.request?]
  | giveUp hphase =>
      cases hp
      simp [hphase, Phase.request?]
  | get => cases hp
  | contains => cases hp

end Turn

theorem Ends.inFlight_eq {result : Except Failure V} {m' : Memo V} (h : Ends m r result m') :
  m'.inFlight = m.inFlight.erase r.key
  := by
  cases h <;> rfl

theorem memo_letIn (x : Admission V × Memo V) :
  (s.letIn caller r x).memo = x.2
  := by
  obtain ⟨a, m⟩ := x
  cases a with
  | hit value => rfl
  | wait => rfl
  | lead => rfl

theorem phase_move (s : SharedMemo V) (caller : Nat) (p : Phase V) :
  (s.move caller p).phase caller = p
  := Function.update_self ..

theorem phase_lead (s : SharedMemo V) (caller : Nat) (r : Request V) (m : Memo V) :
  (s.letIn caller r (.lead, m)).phase caller = .computing r s.events
  := Function.update_self ..

theorem phase_letIn_of_ne (x : Admission V × Memo V) {c : Nat} (hc : c ≠ caller) :
  (s.letIn caller r x).phase c = s.phase c
  := by
  obtain ⟨a, m⟩ := x
  cases a with
  | hit value => apply Function.update_of_ne hc
  | wait => apply Function.update_of_ne hc
  | lead => apply Function.update_of_ne hc

/-- A caller that is let in is not refused, and gets no value but a stored one. -/
theorem exists_phase_enter (s : SharedMemo V) (caller : Nat) (r : Request V) :
  ∃ p, (s.letIn caller r (s.memo.enter r.key)).phase = Function.update s.phase caller p
    ∧ p.request? = some r ∧ p.computed? = none ∧ p.refusal? = none
    ∧ ∀ key value, p.received? = some (key, value) → s.memo.get? key = some value
  := by
  obtain ⟨value, hget, henter⟩ | ⟨-, -, henter⟩ | ⟨-, -, henter⟩ := Memo.enter_cases s.memo r.key
  · rw [henter]
    use .answered r false (.ok value), rfl, rfl, rfl, rfl
    rintro _ _ ⟨⟩
    apply hget
  · rw [henter]
    use .waiting r (s.eventOf r.key), rfl, rfl, rfl, rfl
    rintro _ _ ⟨⟩
  · rw [henter]
    use .computing r s.events, rfl, rfl, rfl, rfl
    rintro _ _ ⟨⟩

/-- Only one caller takes a step. -/
theorem Step.exists_phase_eq (h : Step asks s t) :
  ∃ caller, ∀ c, c ≠ caller → t.phase c = s.phase c
  := by
  cases h with
  | @turn caller p hturn =>
      use caller
      intro c hc
      apply Function.update_of_ne hc
  | @enter caller r hphase =>
      use caller
      intro c hc
      apply phase_letIn_of_ne _ hc
  | @giveBack caller event r result m hphase hends =>
      use caller
      intro c hc
      apply Function.update_of_ne hc
  | @signal caller event r result hphase =>
      use caller
      intro c hc
      apply Function.update_of_ne hc
  | clear =>
      use 0
      intro c _
      rfl

/-- There is always a caller that has not made its request yet. -/
theorem Reachable.exists_idle (h : Reachable asks m s) :
  ∃ caller, s.phase caller = .idle
  := by
  suffices hbound : ∃ n, ∀ c, n ≤ c → s.phase c = .idle by
    obtain ⟨n, hn⟩ := hbound
    use n
    apply hn n (Nat.le_refl n)
  induction h with
  | refl =>
      use 0
      intro c _
      rfl
  | tail _ hstep ih =>
      obtain ⟨n, hn⟩ := ih
      obtain ⟨caller, hcaller⟩ := hstep.exists_phase_eq
      use max n (caller + 1)
      intro c hc
      rw [hcaller c (by omega)]
      apply hn c (by omega)

/-- Only a caller that waited too long is refused. -/
theorem Step.waitedTooLong (h : Step asks s t)
    (hs : ∀ c key e, (s.phase c).refusal? = some (key, e) → e = .waitedTooLong key) :
  ∀ c key e, (t.phase c).refusal? = some (key, e) → e = .waitedTooLong key
  := by
  have hmove : ∀ caller p, t.phase = Function.update s.phase caller p →
      (∀ key e, p.refusal? = some (key, e) → e = .waitedTooLong key) →
      ∀ c key e, (t.phase c).refusal? = some (key, e) → e = .waitedTooLong key := by
    intro caller p hphase hp c key e hc
    rw [hphase, Function.update_apply] at hc
    split at hc
    · apply hp key e hc
    · apply hs c key e hc
  cases h with
  | @turn caller p hturn =>
      apply hmove caller p rfl
      intro key e hp
      apply hturn.waitedTooLong hp
  | @enter caller r hphase =>
      obtain ⟨p, hp, -, -, hrefusal, -⟩ := exists_phase_enter s caller r
      apply hmove caller p hp
      rw [hrefusal]
      rintro _ _ ⟨⟩
  | @giveBack caller event r result m hphase hends =>
      apply hmove caller _ rfl
      rintro _ _ ⟨⟩
  | @signal caller event r result hphase =>
      apply hmove caller _ rfl
      rintro _ _ ⟨⟩
  | clear => apply hs

theorem Reachable.waitedTooLong (h : Reachable asks m s) :
  ∀ c key e, (s.phase c).refusal? = some (key, e) → e = .waitedTooLong key
  := by
  induction h with
  | refl => rintro _ _ _ ⟨⟩
  | tail _ hstep ih => apply hstep.waitedTooLong ih

/-! ### Callers that come later -/

/-- Callers that have not made a request yet take one state to another. -/
structure Later (asks : Nat → Request V → Prop) (s t : SharedMemo V) : Prop where
  steps : Relation.ReflTransGen (Step asks) s t
  others : ∀ c, s.phase c ≠ .idle → t.phase c = s.phase c

theorem Later.refl (asks : Nat → Request V → Prop) (s : SharedMemo V) :
  Later asks s s
  := ⟨.refl, fun _ _ => rfl⟩

theorem Later.trans {u : SharedMemo V} (h : Later asks s t) (h' : Later asks t u) :
  Later asks s u
  := by
  constructor
  · apply h.steps.trans h'.steps
  · intro c hc
    have ht := h.others c hc
    rw [h'.others c (ht ▸ hc), ht]

theorem Later.reachable (h : Later asks s t) (hs : Reachable asks m s) :
  Reachable asks m t
  := hs.trans h.steps

/-- A step of a caller that had not made a request at first. -/
theorem Later.tail {u : SharedMemo V} (h : Later asks s t) (hidle : s.phase caller = .idle)
    (hstep : Step asks t u) (hphase : ∀ c, c ≠ caller → u.phase c = t.phase c) :
  Later asks s u
  := by
  constructor
  · apply h.steps.tail hstep
  · intro c hc
    have hne : c ≠ caller := by
      rintro rfl
      apply hc hidle
    rw [hphase c hne, h.others c hc]

theorem Later.turn (h : Later asks s t) (hidle : s.phase caller = .idle)
    (hturn : t.Turn asks caller p) :
  Later asks s (t.move caller p)
  := by
  apply h.tail hidle (.turn hturn)
  intro c hc
  apply Function.update_of_ne hc

/-- A request that every caller can make can be let in next. -/
theorem Reachable.exists_letIn (h : Reachable asks m s) (hasks : ∀ c, asks c r) :
  ∃ (caller : Nat) (t : SharedMemo V), s.phase caller = .idle
    ∧ Later asks s (t.letIn caller r (s.memo.enter r.key))
  := by
  obtain ⟨caller, hidle⟩ := h.exists_idle
  have hcalled : Later asks s (s.move caller (.entering r)) :=
    (Later.refl asks s).turn hidle (.call hidle (hasks caller))
  use caller, s.move caller (.entering r), hidle
  apply hcalled.tail hidle (.enter (phase_move s caller _))
  intro c hc
  apply phase_letIn_of_ne _ hc

end SharedMemo

end CommitPolicy
