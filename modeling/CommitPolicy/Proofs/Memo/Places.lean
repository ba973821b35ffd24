import CommitPolicy.Proofs.Memo.Recency

/-!
# Places in a run

A place in a run of steps is a point at which a step is about to be taken or none is left, on the
outside or inside of computations that are under way.  `MemoStep.Reaches` lists the places of a run.
It is shown that

* the keys in flight at a place are those of the computations that are under way there;
* the memo at a place recounts the events up to then, and these are the first events of the run;
* every value that is stored was computed at a place of the run.
-/

namespace CommitPolicy

open MemoEvent

/-- A place in a run of steps. -/
structure MemoPlace (V : Type) where
  /-- What has happened up to then. -/
  past : List (MemoEvent V)
  /-- The keys of the computations that are under way, the innermost one first. -/
  around : List String
  memo : Memo V
  /-- The steps that are left in the innermost computation. -/
  next : List (MemoStep V)

namespace MemoPlace

variable {V : Type}

/-- The place as part of the computation of a key. -/
def within (p : MemoPlace V) (key : String) : MemoPlace V :=
  { p with past := .started key :: p.past, around := p.around ++ [key] }

/-- The place when other events come first. -/
def behind (p : MemoPlace V) (events : List (MemoEvent V)) : MemoPlace V :=
  { p with past := events ++ p.past }

end MemoPlace

namespace MemoStep

open SharedMemo

variable {V : Type} {m : Memo V} {steps : List (MemoStep V)} {p : MemoPlace V} {key : String}
  {value : V}

/-- The places that steps come to when they are taken one after the other. -/
inductive Reaches : Memo V → List (MemoStep V) → MemoPlace V → Prop
  | here {m : Memo V} {steps : List (MemoStep V)} : Reaches m steps ⟨[], [], m, steps⟩
  | inside {m entered : Memo V} {key : String} {value : V} {keep : Bool} {fault : Option String}
      {inner rest : List (MemoStep V)} {p : MemoPlace V} (henter : m.enter key = (.lead, entered))
      (h : Reaches entered inner p) :
      Reaches m (.compute key value keep fault inner :: rest) (p.within key)
  | later {m : Memo V} {step : MemoStep V} {rest : List (MemoStep V)} {p : MemoPlace V}
      (h : Reaches (run m step).after rest p) :
      Reaches m (step :: rest) (p.behind (events step (run m step)))

/-! ### Keys in flight -/

/-- The keys in flight are those of the computations that are under way, and those that were in
flight at first. -/
theorem Reaches.inFlight_eq (h : Reaches m steps p) :
  p.memo.inFlight = p.around ++ m.inFlight
  := by
  induction h with
  | here => rfl
  | @inside m _ key _ _ _ _ _ p henter _ ih =>
      obtain ⟨-, -, rfl⟩ := Memo.of_enter_eq_lead henter
      change p.memo.inFlight = (p.around ++ [key]) ++ m.inFlight
      rw [ih, List.append_assoc]
      rfl
  | @later m step _ p _ ih =>
      change p.memo.inFlight = p.around ++ m.inFlight
      rw [ih, inFlight_run]

/-! ### Events -/

theorem events_compute_of_lead {entered : Memo V} (h : m.enter key = (.lead, entered)) (value : V)
    (keep : Bool) (fault : Option String) (inner : List (MemoStep V)) :
  events (.compute key value keep fault inner) (run m (.compute key value keep fault inner))
    = .started key :: (eventsAll inner (runAll entered inner)
      ++ endEvents key keep
        (conclude (lastOf entered (runAll entered inner)) key value keep fault).1)
  := by
  rw [run_compute_of_lead h, events]

/-- What happens up to a place, and after that in the innermost computation, is the beginning of
what happens in the run. -/
theorem Reaches.events_prefix (h : Reaches m steps p) :
  p.past ++ eventsAll p.next (runAll p.memo p.next) <+: eventsAll steps (runAll m steps)
  := by
  induction h with
  | here => apply List.prefix_refl
  | @inside m entered key value keep fault inner rest p henter _ ih =>
      rw [runAll, eventsAll, events_compute_of_lead henter]
      change _ :: (p.past ++ _) <+: (_ :: _) ++ _
      rw [List.cons_append, List.cons_prefix_cons, List.append_assoc]
      constructor
      · rfl
      · apply ih.trans (List.prefix_append _ _)
  | @later m step rest p _ ih =>
      rw [runAll, eventsAll]
      change (_ ++ p.past) ++ _ <+: _
      rw [List.append_assoc]
      apply (List.prefix_append_right_inj _).mpr ih

theorem Reaches.past_prefix (h : Reaches m steps p) :
  p.past <+: eventsAll steps (runAll m steps)
  := (List.prefix_append _ _).trans h.events_prefix

/-- The memo recounts what has happened. -/
theorem Reaches.recounts {n : Option Int} {new : Memo V} (hnew : Memo.make? n = .ok new)
    {maxSize : Option Nat} (h : Reaches m steps p) {s : SharedMemo V}
    (hs : Reachable (fun _ _ => True) new s) (hmemo : s.memo = m) {past : List (MemoEvent V)}
    (hpast : m.Recounts maxSize past) :
  p.memo.Recounts maxSize (past ++ p.past)
  := by
  induction h generalizing s past with
  | here =>
      rw [List.append_nil]
      apply hpast
  | @inside m entered key value keep fault inner rest p henter _ ih =>
      subst hmemo
      obtain ⟨t, ht, hentered⟩ := exists_reachable_enter hs key value keep
      rw [henter] at hentered
      have hlead : entered.Recounts maxSize (past ++ [.started key]) := by
        obtain ⟨-, -, rfl⟩ := Memo.of_enter_eq_lead henter
        apply hpast.lead
      have hinner := ih ht hentered hlead
      rw [List.append_assoc] at hinner
      apply hinner
  | @later m step rest p _ ih =>
      subst hmemo
      obtain ⟨-, hafter⟩ := recounts_run hnew hs step hpast
      obtain ⟨_, t, -, ht, hmemo, -⟩ := exists_later_run (fun _ _ => trivial) s hs step
      have hrest := ih (ht.reachable hs) hmemo hafter
      rw [List.append_assoc] at hrest
      apply hrest

/-! ### Where a value was computed -/

/-- At the place, a computation of the key starts that gives the value and stores it; `course` is
what happens from its start until the value is stored. -/
inductive Stores (p : MemoPlace V) (key : String) (value : V) : List (MemoEvent V) → Prop
  | mk {entered : Memo V} {inner rest : List (MemoStep V)}
      (hnext : p.next = .compute key value true none inner :: rest)
      (henter : p.memo.enter key = (.lead, entered)) :
      Stores p key value (.started key :: eventsAll inner (runAll entered inner))

theorem Stores.within {course : List (MemoEvent V)} (h : Stores p key value course)
    (other : String) :
  Stores (p.within other) key value course
  := by
  cases h with
  | mk hnext henter => exact .mk hnext henter

theorem Stores.behind {course : List (MemoEvent V)} (h : Stores p key value course)
    (past : List (MemoEvent V)) :
  Stores (p.behind past) key value course
  := by
  cases h with
  | mk hnext henter => exact .mk hnext henter

/-- An element of two lists one after the other is one of the first or of the second. -/
theorem concat_prefix_append {α : Type} {x l l' : List α} {a : α} (h : x ++ [a] <+: l ++ l') :
  x ++ [a] <+: l ∨ ∃ y, x = l ++ y ∧ y ++ [a] <+: l'
  := by
  rcases List.prefix_or_prefix_of_prefix h (List.prefix_append l l') with hx | hl
  · apply Or.inl hx
  · rcases List.prefix_concat_iff.mp hl with rfl | ⟨y, rfl⟩
    · apply Or.inl (List.prefix_refl _)
    · rw [List.append_assoc, List.prefix_append_right_inj] at h
      exact .inr ⟨y, rfl, h⟩

theorem concat_prefix_singleton_iff {α : Type} {x : List α} {a b : α} :
  x ++ [a] <+: [b] ↔ x = [] ∧ a = b
  := by
  cases x with
  | nil => simp
  | cons c x => simp

/-- A computation that ends with its value stored was to keep it and did not fail. -/
theorem of_prefix_endEvents {x : List (MemoEvent V)} {other : String} {result : V} {keep : Bool}
    {fault : Option String}
    (h : x ++ [.stored key value] <+: endEvents other keep (conclude m other result keep fault).1) :
  x = [] ∧ key = other ∧ value = result ∧ keep = true ∧ fault = none
  := by
  cases fault with
  | some text => simp [conclude, endEvents] at h
  | none =>
      cases keep with
      | false => simp [conclude, endEvents] at h
      | true =>
          obtain ⟨rfl, heq⟩ := concat_prefix_singleton_iff.mp h
          cases heq
          exact ⟨rfl, rfl, rfl, rfl, rfl⟩

mutual

theorem exists_stores_run (m : Memo V) (step : MemoStep V) (rest : List (MemoStep V))
    {x : List (MemoEvent V)} (h : x ++ [.stored key value] <+: events step (run m step)) :
  ∃ p course, Reaches m (step :: rest) p ∧ Stores p key value course ∧ x = p.past ++ course
  := by
  cases step with
  | compute other result keep fault inner =>
      obtain ⟨stored, -, henter⟩ | ⟨-, -, henter⟩ | ⟨-, -, henter⟩ := Memo.enter_cases m other
      · rw [run, henter] at h
        cases (concat_prefix_singleton_iff.mp h).2
      · rw [run, henter] at h
        simp [events] at h
      · rw [events_compute_of_lead henter] at h
        change x ++ _ <+: [.started other] ++ (_ ++ _) at h
        rcases concat_prefix_append h with hstart | ⟨y, rfl, hbelow⟩
        · cases (concat_prefix_singleton_iff.mp hstart).2
        rcases concat_prefix_append hbelow with hinner | ⟨z, rfl, hend⟩
        · obtain ⟨p, course, hp, hstores, rfl⟩ := exists_stores_runAll _ inner hinner
          exact ⟨_, course, .inside henter hp, hstores.within other, rfl⟩
        · obtain ⟨rfl, rfl, rfl, rfl, rfl⟩ := of_prefix_endEvents hend
          rw [List.append_nil]
          exact ⟨_, _, .here, .mk rfl henter, rfl⟩
  | get other => simp [events] at h
  | contains other => simp [events] at h
  | clear => cases (concat_prefix_singleton_iff.mp h).2

theorem exists_stores_runAll (m : Memo V) (steps : List (MemoStep V)) {x : List (MemoEvent V)}
    (h : x ++ [.stored key value] <+: eventsAll steps (runAll m steps)) :
  ∃ p course, Reaches m steps p ∧ Stores p key value course ∧ x = p.past ++ course
  := by
  cases steps with
  | nil => simp [eventsAll] at h
  | cons step rest =>
      rw [runAll, eventsAll] at h
      rcases concat_prefix_append h with hstep | ⟨y, rfl, hrest⟩
      · apply exists_stores_run m step rest hstep
      · obtain ⟨p, course, hp, hstores, rfl⟩ := exists_stores_runAll _ rest hrest
        exact ⟨_, course, .later hp, hstores.behind _, (List.append_assoc ..).symm⟩

end

end MemoStep

end CommitPolicy
