import CommitPolicy.Proofs.Validator.Acts
import CommitPolicy.Proofs.Validator.Session

/-!
# What observers are told

Observers come and go between the calls of a validator, and other callers may use its memo.  It is
shown that

* a validation tells the observers that are registered, one after the other, what the verdict that
  it returns says: that the message is ignored and because of which pattern, that time ran out, and
  at the end the verdict itself, wherever it came from;
* nobody else is told anything, and nobody is told of anything else; a validation that fails because
  it would have to wait for too long tells nobody;
* the verdicts and the memo are those that come about without observers.

The pattern is not kept with a verdict but looked for again.  It is found because the verdicts in
the memo are verdicts of the same policy.
-/

namespace CommitPolicy

open SharedMemo

/-! ### The events of a verdict -/

namespace RuleSet

variable {rs : RuleSet} {message : String} {verdict : Verdict}

/-- The events that tell of a verdict: the pattern of an ignored message is the first one that
matches it. -/
inductive Tells (rs : RuleSet) (message : String) (verdict : Verdict) : List Event → Prop
  | ignored {earlier later : List Pattern} {p : Pattern}
      (hpatterns : rs.ignorePatterns = earlier ++ p :: later)
      (hearlier : ∀ q ∈ earlier, q.search message = false) (hmatches : p.search message = true)
      (hignored : verdict.ignored = true) (htime : verdict.timedOut = false) :
      Tells rs message verdict [.ignored message p.source, .validated message verdict]
  | late (hignored : verdict.ignored = false) (htime : verdict.timedOut = true) :
      Tells rs message verdict [.timedOut message verdict, .validated message verdict]
  | judged (hignored : verdict.ignored = false) (htime : verdict.timedOut = false) :
      Tells rs message verdict [.validated message verdict]

/-- If a verdict is an ignored one, then a pattern matches the message, and time did not run out. -/
def Explains (rs : RuleSet) (message : String) (verdict : Verdict) : Prop :=
  verdict.ignored = true → (rs.ignoredBy message).isSome ∧ verdict.timedOut = false

theorem Explains.tells (h : rs.Explains message verdict) :
  rs.Tells message verdict (rs.events message verdict)
  := by
  cases hignored : verdict.ignored with
  | true =>
      obtain ⟨hsome, htime⟩ := h hignored
      obtain ⟨p, hp⟩ := Option.isSome_iff_exists.mp hsome
      obtain ⟨hmatches, earlier, later, hpatterns, hearlier⟩ := List.find?_eq_some_iff_append.mp hp
      simp only [events, hignored, htime, hp]
      apply Tells.ignored hpatterns _ hmatches hignored htime
      simpa using hearlier
  | false =>
      cases htime : verdict.timedOut with
      | true =>
          simp only [events, hignored, htime]
          apply Tells.late hignored htime
      | false =>
          simp only [events, hignored, htime]
          apply Tells.judged hignored htime

theorem ignored_judge (rs : RuleSet) (c : Commit) (message : String) (seconds : Option Float)
    (done : List Nat) :
  (rs.judge c message seconds done).ignored = false
  := by
  rw [judge]
  split
  · rfl
  · split
    · rfl
    · rfl

theorem explains_validate (rs : RuleSet) (message : String) (seconds : Option Float) (start : Float)
    (course : Course) :
  rs.Explains message (rs.validate message seconds start course)
  := by
  rw [validate]
  split
  · next hsome => exact fun _ => ⟨hsome, rfl⟩
  · split
    · rintro ⟨⟩
    · rw [Explains, ignored_judge]
      rintro ⟨⟩

end RuleSet

namespace Validator

variable {O : Type} {rs : RuleSet} {message : String} {deadline : Option Deadline}
  {seconds : Option Float}

/-! ### Verdicts that are found in the memo -/

/-- The memo is as callers left it who validated messages with the policy, at the same time or not,
and who may still be at it. -/
def FilledBy (rs : RuleSet) (memo : Memo Verdict) : Prop :=
  ∃ maxSize m s, Memo.make? maxSize = .ok m ∧ Reachable (Validates rs) m s ∧ s.memo = memo

section Holds

variable {P : String → Verdict → Prop}
  (hvalidate : ∀ message seconds start course, P message (rs.validate message seconds start course))
include hvalidate

/-- What is true of every verdict that the policy gives is true of those in the memo. -/
theorem FilledBy.holds {memo : Memo Verdict} (h : FilledBy rs memo) :
  memo.Holds P
  := by
  obtain ⟨maxSize, m, s, hm, hs, rfl⟩ := h
  have hrecorded := (hs.sound hm).1.recorded
  intro e he
  obtain ⟨leader, r, hleader, hkey, -⟩ := hrecorded.entries e he
  obtain ⟨message, seconds, rfl⟩ := hrecorded.asked leader r (request?_of_computed? hleader)
  obtain ⟨_, _, _, -, hattempt⟩ := hrecorded.given leader _ _ hleader
  rw [← hkey, ← (RuleSet.attempt_eq_ok_iff.mp hattempt).2]
  apply hvalidate

/-- What is also true of the verdict of a caller that gives up is true of every answer, and stays
true of the verdicts in the memo. -/
theorem holds_answer (hgaveUp : ∀ message seconds, P message (gaveUp rs seconds))
    {memo : Option (Memo Verdict)} (hmemo : ∀ m ∈ memo, m.Holds P) (message : String)
    (seconds : Option Float) (timing : Timing) :
  (∀ verdict, (answer rs message seconds timing memo).1 = .ok verdict → P message verdict)
    ∧ ∀ m ∈ (answer rs message seconds timing memo).2, m.Holds P
  := by
  have hattempt : ∀ verdict, rs.attempt message seconds timing.start (timing.course seconds)
      = .ok verdict → P message verdict := by
    intro verdict hverdict
    rw [← (RuleSet.attempt_eq_ok_iff.mp hverdict).2]
    apply hvalidate
  cases memo with
  | none =>
      use hattempt
      rintro _ ⟨⟩
  | some memo =>
      have hholds := hmemo memo rfl
      have hentered := hholds.enter message
      obtain ⟨stored, hget, henter⟩ | ⟨-, -, henter⟩ | ⟨-, -, henter⟩ :=
        Memo.enter_cases memo message
      · rw [henter] at hentered
        rw [answer, henter]
        constructor
        · rintro _ ⟨⟩
          apply hholds.of_get? hget
        · rintro _ ⟨⟩
          apply hentered
      · simp only [answer, henter]
        split
        · constructor
          · rintro _ ⟨⟩
          · rintro _ ⟨⟩
            apply hholds
        · constructor
          · rintro _ ⟨⟩
            apply hgaveUp
          · rintro _ ⟨⟩
            apply hholds
      · rw [henter] at hentered
        rw [answer, henter]
        use hattempt
        rintro _ ⟨⟩
        cases hresult : rs.attempt message seconds timing.start (timing.course seconds) with
        | error e => apply hentered.release
        | ok verdict =>
            rw [conclude]
            split
            · apply hentered.release
            · apply hentered.settle (hattempt verdict hresult)

end Holds

theorem FilledBy.explains {memo : Memo Verdict} (h : FilledBy rs memo) :
  memo.Holds rs.Explains
  := h.holds rs.explains_validate

theorem explains_gaveUp (rs : RuleSet) (message : String) (seconds : Option Float) :
  rs.Explains message (gaveUp rs seconds)
  := by
  rintro ⟨⟩

/-! ### What a call tells -/

/-- Of each message and its verdict every observer is told, one observer after the other. -/
inductive Announces (rs : RuleSet) (observers : List O) :
    List String → List Verdict → List (Notice O) → Prop
  | nil : Announces rs observers [] [] []
  | cons {message : String} {verdict : Verdict} {events : List Event} {messages : List String}
      {verdicts : List Verdict} {told : List (Notice O)} (htells : rs.Tells message verdict events)
      (hrest : Announces rs observers messages verdicts told) :
      Announces rs observers (message :: messages) (verdict :: verdicts)
        ((observers.flatMap fun o => events.map fun e => (o, e)) ++ told)

theorem Announces.mem_observers {observers : List O} {messages : List String}
    {verdicts : List Verdict} {told : List (Notice O)}
    (h : Announces rs observers messages verdicts told) :
  ∀ notice ∈ told, notice.1 ∈ observers
  := by
  induction h with
  | nil => nofun
  | cons _ _ ih =>
      intro notice hnotice
      rcases List.mem_append.mp hnotice with hfirst | hlater
      · obtain ⟨o, ho, hmem⟩ := List.mem_flatMap.mp hfirst
        obtain ⟨e, -, rfl⟩ := List.mem_map.mp hmem
        apply ho
      · apply ih notice hlater

theorem Announces.append {observers : List O} {messages messages' : List String}
    {verdicts verdicts' : List Verdict} {told told' : List (Notice O)}
    (h : Announces rs observers messages verdicts told)
    (h' : Announces rs observers messages' verdicts' told') :
  Announces rs observers (messages ++ messages') (verdicts ++ verdicts') (told ++ told')
  := by
  induction h with
  | nil => apply h'
  | cons htells _ ih =>
      rw [List.append_assoc]
      apply Announces.cons htells ih

/-- A validation of a validator, given by its message, its deadline and its timing, would have to
wait for longer than is possible. -/
def MayFail (v : Validator O) (call : String × Option Deadline × Timing) : Prop :=
  ∃ seconds, v.allowance call.2.1 = .ok seconds ∧ MayRefuse v.rules call.1 seconds call.2.2

/-- What validations one after the other return and tell.  The observers are told of each verdict
that is returned.  If there is a validation that fails, it is because it would have to wait for too
long; then the observers have been told of the verdicts before it, and no others are looked for. -/
inductive Delivers (rs : RuleSet) (observers : List O)
    (mayFail : String × Option Deadline × Timing → Prop)
    (calls : List (String × Option Deadline × Timing)) :
    Except Failure (List Verdict) → List (Notice O) → Prop
  | all {verdicts : List Verdict} {told : List (Notice O)}
      (htells : Announces rs observers (calls.map (·.1)) verdicts told) :
      Delivers rs observers mayFail calls (.ok verdicts) told
  | upTo {earlier later : List (String × Option Deadline × Timing)}
      {call : String × Option Deadline × Timing} {verdicts : List Verdict} {told : List (Notice O)}
      (hcalls : calls = earlier ++ call :: later) (hfails : mayFail call)
      (htells : Announces rs observers (earlier.map (·.1)) verdicts told) :
      Delivers rs observers mayFail calls (.error .overflow) told

section Delivers

variable {observers : List O} {mayFail : String × Option Deadline × Timing → Prop}
  {call : String × Option Deadline × Timing} {calls : List (String × Option Deadline × Timing)}

theorem Delivers.cons {verdict : Verdict} {told told' : List (Notice O)}
    {result : Except Failure (List Verdict)}
    (htells : Announces rs observers [call.1] [verdict] told)
    (h : Delivers rs observers mayFail calls result told') :
  Delivers rs observers mayFail (call :: calls) (result.map (verdict :: ·)) (told ++ told')
  := by
  cases h with
  | all hrest => exact .all (htells.append hrest)
  | upTo hcalls hfails hrest =>
      rw [hcalls]
      exact .upTo (List.cons_append ..).symm hfails (htells.append hrest)

theorem Delivers.mem_observers {result : Except Failure (List Verdict)} {told : List (Notice O)}
    (h : Delivers rs observers mayFail calls result told) :
  ∀ notice ∈ told, notice.1 ∈ observers
  := by
  cases h with
  | all htells => apply htells.mem_observers
  | upTo _ _ htells => apply htells.mem_observers

end Delivers

/-- The verdicts in the memo of the validator are due to its policy. -/
def Explained (v : Validator O) : Prop := ∀ memo ∈ v.memo, memo.Holds v.rules.Explains

theorem Explained.validate {v : Validator O} (hv : v.Explained)
    (hseconds : v.allowance deadline = .ok seconds) (message : String) (timing : Timing) :
  ∃ memo, Explained { v with memo }
    ∧ ((∃ verdict told, v.validate message deadline timing = (.ok verdict, told, { v with memo })
        ∧ Announces v.rules v.observers [message] [verdict] told)
      ∨ v.validate message deadline timing = (.error .overflow, [], { v with memo })
        ∧ v.MayFail (message, deadline, timing))
  := by
  obtain ⟨hverdict, hmemo⟩ :=
    holds_answer v.rules.explains_validate (explains_gaveUp v.rules) hv message seconds timing
  rcases answer_cases v.rules message seconds timing v.memo with
    ⟨verdict, memo, hanswer⟩ | ⟨memo, hanswer, hrefused⟩
  · rw [hanswer] at hverdict hmemo
    refine ⟨memo, hmemo, .inl ⟨verdict, _, validate_of_answer hseconds hanswer, ?_⟩⟩
    rw [notices, ← List.append_nil (List.flatMap _ _)]
    apply Announces.cons (hverdict verdict rfl).tells .nil
  · rw [hanswer] at hmemo
    exact ⟨memo, hmemo,
      .inr ⟨validate_of_answer_error hseconds hanswer, seconds, hseconds, hrefused⟩⟩

/-- What a single validation delivers. -/
theorem Explained.validate_delivers {v : Validator O} (hv : v.Explained)
    (hseconds : v.allowance deadline = .ok seconds) (message : String) (timing : Timing) :
  ∃ result told memo,
    (v.validate message deadline timing).map (fun result => result.map fun x => [x]) id
        = (result, told, { v with memo })
      ∧ Delivers v.rules v.observers v.MayFail [(message, deadline, timing)] result told
      ∧ Explained { v with memo }
  := by
  obtain ⟨memo, hw, ⟨verdict, told, hvalidate, htells⟩ | ⟨hvalidate, hfails⟩⟩ :=
    hv.validate hseconds message timing
  · rw [hvalidate]
    exact ⟨.ok [verdict], told, memo, rfl, .all htells, hw⟩
  · rw [hvalidate]
    exact ⟨.error .overflow, [], memo, rfl, .upTo (List.nil_append _).symm hfails .nil, hw⟩

theorem Explained.validateEach {v : Validator O} (hv : v.Explained)
    (hseconds : v.allowance none = .ok seconds) (messages : List (String × Timing)) :
  ∃ result told memo, v.validateEach messages = (result, told, { v with memo })
    ∧ Delivers v.rules v.observers v.MayFail
      (messages.map fun (message, timing) => (message, none, timing)) result told
    ∧ Explained { v with memo }
  := by
  induction messages generalizing v with
  | nil => exact ⟨.ok [], [], v.memo, rfl, .all .nil, hv⟩
  | cons first rest ih =>
      obtain ⟨message, timing⟩ := first
      rw [Validator.validateEach]
      obtain ⟨memo, hw, ⟨verdict, told, hvalidate, htells⟩ | ⟨hvalidate, hfails⟩⟩ :=
        hv.validate hseconds message timing
      · obtain ⟨result, toldRest, memo', hrest, hdelivers, hw'⟩ := ih hw hseconds
        simp only [hvalidate, hrest]
        exact ⟨_, _, memo', rfl, hdelivers.cons htells, hw'⟩
      · rw [hvalidate]
        exact ⟨_, _, memo, rfl, .upTo (List.nil_append _).symm hfails .nil, hw⟩

section Call

variable [BEq O] {v : Validator O} {a : Act O}

/-- A call that is possible tells the observers of its verdicts. -/
theorem Explained.exists_call (hv : v.Explained) (ha : a.Possible v v.observers)
    (hothers : ∀ memo, a = .others memo → FilledBy v.rules memo) :
  ∃ result told memo observers, a.call v = (result, told, { v with memo, observers })
      ∧ Delivers v.rules v.observers v.MayFail a.validations result told
      ∧ observers = registered v.observers [a] ∧ Explained { v with memo }
  := by
  cases a with
  | validate message deadline timing =>
      obtain ⟨seconds, hseconds⟩ := ha
      obtain ⟨result, told, memo, hcall, hdelivers, hw⟩ :=
        hv.validate_delivers hseconds message timing
      exact ⟨result, told, memo, v.observers, hcall, hdelivers, rfl, hw⟩
  | validateFile bytes deadline timing =>
      obtain ⟨hbytes, seconds, hseconds⟩ := ha
      obtain ⟨content, rfl⟩ := Option.isSome_iff_exists.mp hbytes
      obtain ⟨result, told, memo, hcall, hdelivers, hw⟩ :=
        hv.validate_delivers hseconds (messageOf content) timing
      exact ⟨result, told, memo, v.observers, hcall, hdelivers, rfl, hw⟩
  | validateEach messages =>
      rcases ha with rfl | ⟨seconds, hseconds⟩
      · exact ⟨.ok [], [], v.memo, v.observers, rfl, .all .nil, rfl, hv⟩
      · obtain ⟨result, told, memo, hcall, hdelivers, hw⟩ := hv.validateEach hseconds messages
        exact ⟨result, told, memo, v.observers, hcall, hdelivers, rfl, hw⟩
  | attach o => exact ⟨.ok [], [], v.memo, v.observers ++ [o], rfl, .all .nil, rfl, hv⟩
  | detach o =>
      have hregistered : v.observers.contains o = true := ha
      refine ⟨.ok [], [], v.memo, v.observers.erase o, ?_, .all .nil, rfl, hv⟩
      rw [Act.call, detach, if_pos hregistered]
  | others memo =>
      refine ⟨.ok [], [], v.memo.map fun _ => memo, v.observers, rfl, .all .nil, rfl, ?_⟩
      intro m hm
      obtain ⟨_, -, rfl⟩ := Option.map_eq_some_iff.mp hm
      apply (hothers memo rfl).explains

/-- What one act keeps, and how it changes the observers. -/
theorem Explained.next [PartialEquivBEq O] (hv : v.Explained)
    (hothers : ∀ memo, a = .others memo → FilledBy v.rules memo) :
  (a.next v).Explained ∧ (a.next v).rules = v.rules ∧ (a.next v).deadline = v.deadline
    ∧ (a.next v).observers = registered v.observers [a]
  := by
  by_cases ha : a.Possible v v.observers
  · obtain ⟨result, told, memo, observers, hcall, -, rfl, hw⟩ := hv.exists_call ha hothers
    rw [Act.next, hcall]
    exact ⟨hw, rfl, rfl, rfl⟩
  · obtain ⟨⟨e, he⟩, hobservers⟩ := exists_call_eq_error ha
    rw [Act.next, he]
    exact ⟨hv, rfl, rfl, hobservers.symm⟩

/-- What a run keeps, and which observers it leaves registered. -/
theorem Explained.after [PartialEquivBEq O] {v : Validator O} (hv : v.Explained)
    {acts : List (Act O)} (hothers : ∀ memo, .others memo ∈ acts → FilledBy v.rules memo) :
  (v.after acts).Explained ∧ (v.after acts).rules = v.rules
    ∧ (v.after acts).deadline = v.deadline
    ∧ (v.after acts).observers = registered v.observers acts
  := by
  induction acts generalizing v with
  | nil => exact ⟨hv, rfl, rfl, rfl⟩
  | cons a acts ih =>
      have hfirst : ∀ memo, a = .others memo → FilledBy v.rules memo := by
        rintro memo rfl
        apply hothers memo List.mem_cons_self
      obtain ⟨hw, hrules, hdeadline, hobservers⟩ := hv.next hfirst
      have hlater : ∀ memo, .others memo ∈ acts → FilledBy (a.next v).rules memo := by
        intro memo hmemo
        rw [hrules]
        apply hothers memo (List.mem_cons_of_mem a hmemo)
      obtain ⟨hend, hrules', hdeadline', hobservers'⟩ := ih hw hlater
      refine ⟨hend, hrules'.trans hrules, hdeadline'.trans hdeadline, ?_⟩
      rw [registered_cons, ← hobservers]
      apply hobservers'

end Call

/-- Whatever happens to a validator, a call that is possible tells each observer that is registered
what its verdicts say, one verdict after the other, and nobody else; one that is not possible fails,
tells nobody and changes nothing.  Its verdicts and the memo are those of a validator that has no
observers. -/
theorem observers_told_exactly [BEq O] [PartialEquivBEq O] {v : Validator O}
    (hmemo : ∀ memo ∈ v.memo, FilledBy v.rules memo) {acts : List (Act O)}
    (hothers : ∀ memo, .others memo ∈ acts → FilledBy v.rules memo) :
  (∀ before a rest, acts = before ++ a :: rest →
    (a.Possible v (registered v.observers before) →
      ∃ result told w, a.call (v.after before) = (result, told, w)
        ∧ Delivers v.rules (registered v.observers before) v.MayFail a.validations result told
        ∧ ∀ notice ∈ told, notice.1 ∈ registered v.observers before)
    ∧ (¬a.Possible v (registered v.observers before) →
      ∃ e, a.call (v.after before) = (.error e, [], v.after before))
    ∧ (a.registers = false →
      (a.call (v.silent.after (before.filter fun b => !b.registers))).1
        = (a.call (v.after before)).1))
    ∧ (v.silent.after (acts.filter fun a => !a.registers)).memo = (v.after acts).memo
  := by
  have hv : v.Explained := fun memo hm => (hmemo memo hm).explains
  constructor
  · rintro before a rest rfl
    have hbefore : ∀ memo, .others memo ∈ before → FilledBy v.rules memo :=
      fun memo hm => hothers memo (List.mem_append_left _ hm)
    obtain ⟨hw, hrules, hdeadline, hobservers⟩ := hv.after hbefore
    have hpossible : a.Possible v (registered v.observers before)
        ↔ a.Possible (v.after before) (v.after before).observers := by
      rw [hobservers]
      cases a with
      | _ => simp only [Act.Possible, allowance, hdeadline]
    refine ⟨?_, ?_, ?_⟩
    · intro ha
      have hlast : ∀ memo, a = .others memo → FilledBy (v.after before).rules memo := by
        rintro memo rfl
        rw [hrules]
        apply hothers memo (by simp)
      obtain ⟨result, told, memo, observers, hcall, hdelivers, -⟩ :=
        hw.exists_call (hpossible.mp ha) hlast
      have hfails : (v.after before).MayFail = v.MayFail := by
        funext call
        simp only [MayFail, allowance, hrules, hdeadline]
      rw [hrules, hobservers, hfails] at hdelivers
      exact ⟨result, told, _, hcall, hdelivers, hdelivers.mem_observers⟩
    · intro ha
      apply (exists_call_eq_error fun h => ha (hpossible.mpr h)).1
    · intro ha
      rw [after_silent, call_silent ha]
      rfl
  · rw [after_silent]
    rfl

/-- A validator that ignores messages with a `q` or a `z` in them, and whose time runs out at
once. -/
def skippingValidator : Validator Nat where
  rules := {
    types := ["fix"]
    scopes := []
    scopeRequired := false
    maxSubjectLength := 72
    allowBreakingChanges := true
    requireJiraTicket := false
    requireTicketRef := false
    jiraTicketPattern := none
    jiraProjects := []
    ignorePatterns := [⟨"q", .char ⟨false, [.one 113], .exact, false⟩⟩,
      ⟨"z", .char ⟨false, [.one 122], .exact, false⟩⟩]
    rules := [.type ["fix"], .subjectLength 72, .footerFormat]
  }
  workers := 1
  memo := some (.empty none)
  deadline := some (.seconds 0)
  observers := []

/-- A validation of a message by another caller. -/
def skippingRequest (message : String) : Request Verdict :=
  request skippingValidator.rules message none

/-- Another caller leads for `z`. -/
def skipping : SharedMemo Verdict :=
  ((start (.empty none)).move 0 (.entering (skippingRequest "z"))).letIn 0 (skippingRequest "z")
    (.lead, ⟨none, [], ["z"], 0, 1⟩)

/-- The verdict on `z` is stored, and the next caller leads. -/
def skipped : SharedMemo Verdict :=
  ((skipping.giveBack 0 (skippingRequest "z") 0 (.ok .skipped)
    ⟨none, [("z", .skipped)], [], 0, 1⟩).move 1 (.entering (skippingRequest "fix: x"))).letIn 1
      (skippingRequest "fix: x") (.lead, ⟨none, [("z", .skipped)], ["fix: x"], 0, 2⟩)

theorem filledBy_skipped :
  FilledBy skippingValidator.rules skipped.memo
  := by
  have hasks : ∀ c message, Validates skippingValidator.rules c (skippingRequest message) :=
    fun _ message => ⟨message, none, rfl⟩
  have hstart : Reachable (Validates skippingValidator.rules) (.empty none)
      (start (.empty none)) := .refl
  have hskipping : Reachable (Validates skippingValidator.rules) (.empty none) skipping :=
    (hstart.tail (.turn (.call rfl (hasks 0 "z")))).tail (.enter rfl)
  have hgives : (skippingRequest "z").gives .skipped :=
    ⟨1, 0, .inTurn fun _ => 0, Int.le_refl 1, RuleSet.attempt_none _ _ _ _⟩
  have hskipped : Reachable (Validates skippingValidator.rules) (.empty none) skipped :=
    ((hskipping.tail (.giveBack rfl (.store hgives rfl))).tail
      (.turn (.call rfl (hasks 1 "fix: x")))).tail (.enter rfl)
  exact ⟨none, .empty none, skipped, rfl, hskipped, rfl⟩

/-- The observer `1` comes twice and goes once, so `2` is told first. -/
def comings : List (Act Nat) :=
  [.attach 1, .attach 2, .attach 1, .others skipped.memo, .detach 1]

/-- The verdict on `z` is found, and the one on `fix: x` is waited for. -/
def askBoth : Act Nat :=
  .validateEach [("z", ⟨0, 0, 0, fun _ => .inTurn fun _ => 0⟩),
    ("fix: x", ⟨0, 0, 0, fun _ => .inTurn fun _ => 0⟩)]

theorem observers_told_exactly_skipped :
  (∀ memo ∈ skippingValidator.memo, FilledBy skippingValidator.rules memo)
    ∧ (∀ memo, .others memo ∈ comings ++ [askBoth] → FilledBy skippingValidator.rules memo)
    ∧ registered [] comings = [2, 1]
    ∧ (∃ late told w,
      askBoth.call (skippingValidator.after comings) = (.ok [.skipped, late], told, w)
      ∧ Announces skippingValidator.rules [2, 1] ["z", "fix: x"] [.skipped, late] told
      ∧ told = [(2, .ignored "z" "z"), (2, .validated "z" .skipped), (1, .ignored "z" "z"),
        (1, .validated "z" .skipped), (2, .timedOut "fix: x" late), (2, .validated "fix: x" late),
        (1, .timedOut "fix: x" late), (1, .validated "fix: x" late)])
    ∧ (skippingValidator.silent.after [.others skipped.memo, askBoth]).memo
      = (skippingValidator.after (comings ++ [askBoth])).memo
  := by
  have hmemo : ∀ memo ∈ skippingValidator.memo, FilledBy skippingValidator.rules memo := by
    rintro _ ⟨⟩
    exact ⟨none, .empty none, start (.empty none), rfl, .refl, rfl⟩
  have hothers : ∀ memo, .others memo ∈ comings ++ [askBoth] →
      FilledBy skippingValidator.rules memo := by
    intro memo hmem
    simp only [comings, askBoth, List.cons_append, List.nil_append, List.mem_cons, List.not_mem_nil,
      Act.others.injEq, reduceCtorEq, false_or, or_false] at hmem
    rw [hmem]
    apply filledBy_skipped
  have hregistered : registered [] comings = [2, 1] := rfl
  have hpossible : askBoth.Possible skippingValidator [2, 1] := .inr ⟨some 0, rfl⟩
  obtain ⟨hcalls, hsame⟩ := observers_told_exactly hmemo hothers
  obtain ⟨result, told, w, hcall, hdelivers, -⟩ := (hcalls comings askBoth [] rfl).1 hpossible
  obtain ⟨late, hresult, htold⟩ : ∃ late, result = .ok [.skipped, late]
      ∧ told = [(2, .ignored "z" "z"), (2, .validated "z" .skipped), (1, .ignored "z" "z"),
        (1, .validated "z" .skipped), (2, .timedOut "fix: x" late), (2, .validated "fix: x" late),
        (1, .timedOut "fix: x" late), (1, .validated "fix: x" late)] := by
    cases hcall
    exact ⟨gaveUp skippingValidator.rules (some 0), rfl, rfl⟩
  subst hresult
  cases hdelivers with
  | all htells => exact ⟨hmemo, hothers, hregistered, ⟨late, told, w, hcall, htells, htold⟩, hsame⟩

end Validator

end CommitPolicy
