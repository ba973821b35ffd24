import CommitPolicy.Memo.Steps
import CommitPolicy.Proofs.Memo.SingleFlight

/-!
# Steps on a memo as callers

A step of a script is a caller of a shared memo, and the steps inside of a computation are callers
that come while it leads.  It is shown that running steps leads to the memo and the answers that
such callers come to, so what holds of callers that share a memo holds of scripts.
-/

namespace CommitPolicy.MemoStep

open SharedMemo

variable {V : Type} {asks : Nat → Request V → Prop} {m : Memo V}

/-- The request of a step.  It gives up at once if it has to wait. -/
def request (key : String) (value : V) (keep : Bool) : Request V where
  key := key
  gives v := v = value
  keeps _ := keep
  timeout := some 0

/-- What the report of a step says of the caller that took it. -/
inductive Tells : MemoStep V → MemoReport V → Phase V → Prop
  | computed {key : String} {value : V} {keep ran : Bool} {fault : Option String}
      {inner : List (MemoStep V)} {result : Except Failure V} {reports : List (MemoReport V)}
      {after : Memo V} :
      Tells (.compute key value keep fault inner) (.computed ran result reports after)
        (.answered (request key value keep) ran result)
  | got {key : String} {value : Option V} {after : Memo V} :
      Tells (.get key) (.got value after) (.got key value)
  | contained {key : String} {present : Bool} {after : Memo V} :
      Tells (.contains key) (.contained present after) (.told key present)
  | cleared {after : Memo V} : Tells .clear (.cleared after) .idle

theorem ends_conclude (m : Memo V) (key : String) (value : V) (keep : Bool)
    (fault : Option String) :
  Ends m (request key value keep) (conclude m key value keep fault).1
    (conclude m key value keep fault).2
  := by
  cases fault with
  | some text => apply Ends.fail
  | none =>
      cases keep with
      | true => exact .store rfl rfl
      | false => exact .pass rfl rfl

theorem lastOf_cons (m : Memo V) (report : MemoReport V) (reports : List (MemoReport V)) :
  lastOf m (report :: reports) = lastOf report.after reports
  := by
  cases reports with
  | nil => rfl
  | cons next rest => simp [lastOf, List.getLast?_cons]

/-- A leader whose inner steps are taken gives back its key and signals. -/
theorem exists_later_conclude {s t u : SharedMemo V} {caller : Nat} {entered : Memo V}
    (hidle : s.phase caller = .idle) (key : String) (value : V) (keep : Bool)
    (fault : Option String)
    (hlead : Later asks s (t.letIn caller (request key value keep) (.lead, entered)))
    (hinner : Later asks (t.letIn caller (request key value keep) (.lead, entered)) u) :
  ∃ v, Later asks s v ∧ v.memo = (conclude u.memo key value keep fault).2
    ∧ v.phase caller
      = .answered (request key value keep) true (conclude u.memo key value keep fault).1
  := by
  have hleads := phase_lead t caller (request key value keep) entered
  have hphase : u.phase caller = .computing (request key value keep) t.events := by
    rw [hinner.others caller (by simp [hleads]), hleads]
  have hends := ends_conclude u.memo key value keep fault
  have hback := (hlead.trans hinner).tail hidle (.giveBack hphase hends)
    fun c hc => Function.update_of_ne hc ..
  have hsignal := hback.tail hidle (.signal (Function.update_self ..))
    fun c hc => Function.update_of_ne hc ..
  exact ⟨_, hsignal, rfl, Function.update_self ..⟩

mutual

/-- A caller that comes later takes the step, together with others that take the inner ones. -/
theorem exists_later_run (hasks : ∀ c r, asks c r) (s : SharedMemo V) (hs : Reachable asks m s)
    (step : MemoStep V) :
  ∃ caller t, s.phase caller = .idle ∧ Later asks s t ∧ t.memo = (run s.memo step).after
    ∧ Tells step (run s.memo step) (t.phase caller)
  := by
  cases step with
  | compute key value keep fault inner =>
      obtain ⟨caller, called, hidle, hlater⟩ :=
        hs.exists_letIn (r := request key value keep) fun c => hasks c _
      change Later asks s (called.letIn caller (request key value keep) (s.memo.enter key))
        at hlater
      rw [run]
      generalize s.memo.enter key = entered at hlater
      obtain ⟨found, entered⟩ := entered
      cases found with
      | hit stored =>
          refine ⟨caller, _, hidle, hlater, rfl, ?_⟩
          have hphase : (called.letIn caller (request key value keep) (.hit stored, entered)).phase
              caller = .answered (request key value keep) false (.ok stored) :=
            Function.update_self ..
          rw [hphase]
          apply Tells.computed
      | wait =>
          have hphase : (called.letIn caller (request key value keep) (.wait, entered)).phase
              caller = .waiting (request key value keep) (called.eventOf key) :=
            Function.update_self ..
          refine ⟨caller, _, hidle, hlater.turn hidle (.giveUp hphase nofun), rfl, ?_⟩
          rw [phase_move]
          apply Tells.computed
      | lead =>
          obtain ⟨u, hinner, hmemo⟩ :=
            exists_later_runAll hasks _ (hlater.reachable hs) inner
          obtain ⟨v, hv, hmemo', hphase⟩ :=
            exists_later_conclude hidle key value keep fault hlater hinner
          change u.memo = lastOf entered (runAll entered inner) at hmemo
          rw [hmemo] at hmemo' hphase
          refine ⟨caller, v, hidle, hv, hmemo', ?_⟩
          rw [hphase]
          apply Tells.computed
  | get key =>
      obtain ⟨caller, hidle⟩ := hs.exists_idle
      refine ⟨caller, _, hidle, (Later.refl asks s).turn hidle (.get hidle key), rfl, ?_⟩
      rw [phase_move]
      apply Tells.got
  | contains key =>
      obtain ⟨caller, hidle⟩ := hs.exists_idle
      refine ⟨caller, _, hidle, (Later.refl asks s).turn hidle (.contains hidle key), rfl, ?_⟩
      rw [phase_move]
      apply Tells.contained
  | clear =>
      obtain ⟨caller, hidle⟩ := hs.exists_idle
      have hclear := (Later.refl asks s).tail hidle .clear fun _ _ => rfl
      refine ⟨caller, _, hidle, hclear, rfl, ?_⟩
      change Tells _ _ (s.phase caller)
      rw [hidle]
      apply Tells.cleared

theorem exists_later_runAll (hasks : ∀ c r, asks c r) (s : SharedMemo V) (hs : Reachable asks m s)
    (steps : List (MemoStep V)) :
  ∃ t, Later asks s t ∧ t.memo = lastOf s.memo (runAll s.memo steps)
  := by
  cases steps with
  | nil => use s, Later.refl asks s; rfl
  | cons step rest =>
      obtain ⟨_, t, -, ht, hmemo, -⟩ := exists_later_run hasks s hs step
      obtain ⟨u, hu, hmemo'⟩ := exists_later_runAll hasks t (ht.reachable hs) rest
      use u, ht.trans hu
      rw [runAll, lastOf_cons, hmemo', hmemo]

end

/-- Steps that are taken one after the other leave a memo that callers come to consistent. -/
theorem consistent_runAll {maxSize : Option Int} (hm : Memo.make? maxSize = .ok m)
    (hasks : ∀ c r, asks c r) {s : SharedMemo V} (hs : Reachable asks m s)
    (steps : List (MemoStep V)) :
  (lastOf s.memo (runAll s.memo steps)).Consistent
  := by
  obtain ⟨t, ht, hmemo⟩ := exists_later_runAll hasks s hs steps
  rw [← hmemo]
  apply ((ht.reachable hs).sound hm).1.consistent

end CommitPolicy.MemoStep
