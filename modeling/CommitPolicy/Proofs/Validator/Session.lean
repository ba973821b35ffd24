import CommitPolicy.Proofs.Memo.SingleFlight
import CommitPolicy.Proofs.Validator.Deadline

/-!
# Sessions with a memo

Callers of a validator with a memo validate messages at the same time, each one within a time of its
own.  It is shown that in every state that they come to

* the stored verdicts are those that are given without a memo and without a deadline;
* so is the answer of a caller, unless it says that time ran out;
* the answer of a caller that gave up waiting says that no rule was completed.

A validation that nobody interrupts is a run of such a session, so the same holds of validations one
after the other.
-/

namespace CommitPolicy.Validator

open SharedMemo

variable {O : Type} {cfg : Config} {rs : RuleSet} {m : Memo Verdict} {s : SharedMemo Verdict}

/-- The request that the validation of a message within so many seconds makes to the memo.  It can
give any verdict that the rules come to, whatever the clock shows and with any number of workers,
and verdicts that did not run out of time are stored.  It fails if waiting for the rules is
refused. -/
def request (rs : RuleSet) (message : String) (seconds : Option Float) : Request Verdict where
  key := message
  gives verdict := ∃ (workers : Int) (start : Float) (course : Course),
    course.Fits workers seconds rs.rules.length
      ∧ rs.attempt message seconds start course = .ok verdict
  keeps verdict := !verdict.timedOut
  timeout := seconds

/-- Every caller validates some message, within any time. -/
def Validates (rs : RuleSet) (_ : Nat) (r : Request Verdict) : Prop :=
  ∃ message seconds, r = request rs message seconds

/-- The answer to a validation, given how its request to the memo ended. -/
def reply (rs : RuleSet) (r : Request Verdict) : Except Failure Verdict → Except Failure Verdict
  | .error (.waitedTooLong _) => .ok (gaveUp rs r.timeout)
  | result => result

section Session

variable [ReadingLimits] (hrules : RuleSet.ofConfig cfg = .ok rs)
include hrules

theorem eq_verdict_of_gives {message : String} {seconds : Option Float} {verdict : Verdict}
    (hgives : (request rs message seconds).gives verdict) (htime : verdict.timedOut = false) :
  verdict = rs.verdict message
  := by
  obtain ⟨_, _, hread⟩ := RuleSet.exists_readFrom hrules
  obtain ⟨workers, start, course, hfits, hattempt⟩ := hgives
  obtain ⟨-, rfl⟩ := RuleSet.attempt_eq_ok_iff.mp hattempt
  rcases RuleSet.validate_eq_or_cutShort hread.inOrder hfits message start with
    heq | ⟨c, -, -, hcut⟩
  · apply heq
  · rw [hcut.timedOut] at htime
    cases htime

/-- What a leader stored is the verdict without a deadline. -/
theorem eq_verdict_of_wasStored (hs : s.Recorded (Validates rs)) {message : String}
    {verdict : Verdict} (hstored : s.WasStored message verdict) :
  verdict = rs.verdict message ∧ verdict.timedOut = false
  := by
  obtain ⟨leader, r, hleader, rfl, hkeeps⟩ := hstored
  have hrequest : (s.phase leader).request? = some r := request?_of_computed? hleader
  obtain ⟨message, seconds, rfl⟩ := hs.asked leader r hrequest
  have htime : verdict.timedOut = false := by
    simpa [request] using hkeeps
  use eq_verdict_of_gives hrules (hs.given leader _ verdict hleader) htime, htime

theorem eq_verdict_of_answered (hs : s.Recorded (Validates rs)) {c : Nat} {r : Request Verdict}
    {ran : Bool} {verdict : Verdict} (hphase : s.phase c = .answered r ran (.ok verdict))
    (htime : verdict.timedOut = false) :
  verdict = rs.verdict r.key
  := by
  cases ran with
  | false =>
      have hreceived : (s.phase c).received? = some (r.key, verdict) := by
        rw [hphase]
        rfl
      apply (eq_verdict_of_wasStored hrules hs (hs.received c r.key verdict hreceived)).1
  | true =>
      have hcomputed : (s.phase c).computed? = some (r, verdict) := by
        rw [hphase]
        rfl
      obtain ⟨message, seconds, rfl⟩ := hs.asked c r (request?_of_computed? hcomputed)
      apply eq_verdict_of_gives hrules (hs.given c _ verdict hcomputed) htime

/-- An answer for which time did not run out is the verdict without a deadline. -/
theorem eq_verdict_of_reply (hs : s.Recorded (Validates rs)) {c : Nat} {r : Request Verdict}
    {ran : Bool} {result : Except Failure Verdict} {verdict : Verdict}
    (hphase : s.phase c = .answered r ran result) (hreply : reply rs r result = .ok verdict)
    (htime : verdict.timedOut = false) :
  verdict = rs.verdict r.key
  := by
  cases result with
  | ok value =>
      cases hreply
      apply eq_verdict_of_answered hrules hs hphase htime
  | error e =>
      cases e with
      | waitedTooLong key =>
          cases hreply
          cases htime
      | _ => cases hreply

/-- So is the verdict of a validation that nobody interrupts. -/
theorem eq_verdict_of_answer {memo : Memo Verdict}
    (hmemo : memo.Holds fun message verdict => verdict = rs.verdict message) {message : String}
    {seconds : Option Float} {timing : Timing} {workers : Int}
    (hfits : (timing.course seconds).Fits workers seconds rs.rules.length) {verdict : Verdict}
    (hanswer : (answer rs message seconds timing (some memo)).1 = .ok verdict)
    (htime : verdict.timedOut = false) :
  verdict = rs.verdict message
  := by
  obtain ⟨stored, hget, henter⟩ | ⟨-, -, henter⟩ | ⟨-, -, henter⟩ := Memo.enter_cases memo message
  · rw [answer, henter] at hanswer
    cases hanswer
    apply hmemo.of_get? hget
  · simp only [answer, henter] at hanswer
    split at hanswer
    · cases hanswer
    · cases hanswer
      cases htime
  · rw [answer, henter] at hanswer
    apply eq_verdict_of_gives hrules ⟨workers, timing.start, _, hfits, hanswer⟩ htime

end Session

/-! ### Validations that nobody interrupts -/

/-- How a caller that leads leaves the memo with a verdict that it came to. -/
theorem ends_of_gives (m : Memo Verdict) {message : String} {seconds : Option Float}
    {verdict : Verdict} (hgives : (request rs message seconds).gives verdict) :
  Ends m (request rs message seconds) (.ok verdict)
    (if verdict.timedOut then m.release message else m.settle message verdict)
  := by
  cases htime : verdict.timedOut with
  | true =>
      apply Ends.pass hgives
      simp [request, htime]
  | false =>
      apply Ends.store hgives
      simp [request, htime]

/-- A validation that nobody interrupts takes the memo to one that a session comes to. -/
theorem exists_reachable_answer (hs : Reachable (Validates rs) m s) (message : String)
    {seconds : Option Float} {timing : Timing} {workers : Int}
    (hfits : (timing.course seconds).Fits workers seconds rs.rules.length) :
  ∃ t, Reachable (Validates rs) m t
    ∧ (answer rs message seconds timing (some s.memo)).2 = some t.memo
  := by
  obtain ⟨caller, called, -, hlater⟩ := hs.exists_letIn fun _ => ⟨message, seconds, rfl⟩
  have hlet : Reachable (Validates rs) m
      (called.letIn caller (request rs message seconds) (s.memo.enter message)) :=
    hlater.reachable hs
  rw [answer]
  generalize s.memo.enter message = entered at hlet
  obtain ⟨found, entered⟩ := entered
  cases found with
  | hit verdict => exact ⟨_, hlet, rfl⟩
  | wait =>
      refine ⟨_, hlet, ?_⟩
      cases refusesWait (seconds.map (timing.asks + ·)) timing.waits with
      | _ => rfl
  | lead =>
      have hleads := phase_lead called caller (request rs message seconds) entered
      cases hattempt : rs.attempt message seconds timing.start (timing.course seconds) with
      | ok verdict =>
          have hgives : (request rs message seconds).gives verdict :=
            ⟨workers, timing.start, _, hfits, hattempt⟩
          exact ⟨_, hlet.tail (.giveBack hleads (ends_of_gives entered hgives)), rfl⟩
      | error e => exact ⟨_, hlet.tail (.giveBack hleads (.fail e.text)), rfl⟩

/-- Callers of a validator with a memo validate messages at the same time, each one within a time of
its own.  In every state that they come to

* a stored verdict is the one that its message gets without a memo and without a deadline;
* so is the answer of a caller, unless it says that time ran out;
* a caller that did not compute its verdict and did not find it either is answered that time ran out
  after no rules.

A validation that nobody interrupts is answered in the same way and is part of such a session,
unless it would have to wait for longer than is possible.  Then it fails, which is part of such a
session, too. -/
theorem session_transparent [ReadingLimits] (hrules : RuleSet.ofConfig cfg = .ok rs)
    {maxSize : Option Int} (hm : Memo.make? maxSize = .ok m) (hs : Reachable (Validates rs) m s) :
  (∀ e ∈ s.memo.entries, e.2 = rs.verdict e.1 ∧ e.2.timedOut = false)
    ∧ (∀ c r ran result verdict, s.phase c = .answered r ran result →
      reply rs r result = .ok verdict → verdict.timedOut = false → verdict = rs.verdict r.key)
    ∧ (∀ c r e, s.phase c = .answered r false (.error e) →
      ∃ verdict, reply rs r (.error e) = .ok verdict ∧ verdict.valid = false
        ∧ verdict.timedOut = true
        ∧ verdict.violations = [timeoutViolation r.timeout 0 rs.rules.length])
    ∧ ∀ (v : Validator O) (message : String) (deadline : Option Deadline) (timing : Timing)
      (seconds : Option Float), v.rules = rs → v.memo = some s.memo → v.Fits timing →
        v.allowance deadline = .ok seconds →
          ∃ t, Reachable (Validates rs) m t
            ∧ ((∃ verdict, v.validate message deadline timing
                = (.ok verdict, v.notices message verdict, { v with memo := some t.memo })
              ∧ (verdict.timedOut = false → verdict = rs.verdict message))
            ∨ v.validate message deadline timing
                = (.error .overflow, [], { v with memo := some t.memo })
              ∧ MayRefuse rs message seconds timing)
  := by
  have hrecorded := (hs.sound hm).1.recorded
  have hentries : ∀ e ∈ s.memo.entries, e.2 = rs.verdict e.1 ∧ e.2.timedOut = false := by
    intro e he
    apply eq_verdict_of_wasStored hrules hrecorded (hrecorded.entries e he)
  refine ⟨hentries, ?_, ?_, ?_⟩
  · intro c r ran result verdict hphase hreply htime
    apply eq_verdict_of_reply hrules hrecorded hphase hreply htime
  · intro c r e hphase
    have hrefusal : (s.phase c).refusal? = some (r.key, e) := by
      rw [hphase]
      rfl
    obtain rfl := hs.waitedTooLong c r.key e hrefusal
    use gaveUp rs r.timeout, rfl, rfl, rfl
    rfl
  · rintro v message deadline timing seconds rfl hmemo hfits hseconds
    obtain ⟨t, ht, hafter⟩ := exists_reachable_answer hs message (hfits seconds)
    use t, ht
    rw [← hmemo] at hafter
    rcases answer_cases v.rules message seconds timing v.memo with
      ⟨verdict, memo, hanswer⟩ | ⟨memo, hanswer, hrefused⟩
    · obtain rfl : memo = some t.memo := by rw [← hafter, hanswer]
      refine .inl ⟨verdict, validate_of_answer hseconds hanswer, ?_⟩
      apply eq_verdict_of_answer hrules (fun e he => (hentries e he).1) (hfits seconds)
      rw [← hmemo, hanswer]
    · obtain rfl : memo = some t.memo := by rw [← hafter, hanswer]
      exact .inr ⟨validate_of_answer_error hseconds hanswer, hrefused⟩

/-- A validation by the strict validator. -/
def strictRequest (seconds : Option Float) : Request Verdict :=
  request strictValidator.rules "b(t): xxxx" seconds

/-- The verdict when two of its six rules are done. -/
def lateVerdict : Verdict :=
  strictValidator.rules.validate "b(t): xxxx" (some 0) 0 (.atOnce (some 0) [5, 1])

/-- Caller `0` leads, with no time left. -/
def hurried : SharedMemo Verdict :=
  ((start (.empty (some 1))).move 0 (.entering (strictRequest (some 0)))).letIn 0
    (strictRequest (some 0)) (.lead, ⟨some 1, [], ["b(t): xxxx"], 0, 1⟩)

/-- Caller `1` has given up waiting for it. -/
def refused : SharedMemo Verdict :=
  ((hurried.move 1 (.entering (strictRequest (some 1)))).letIn 1 (strictRequest (some 1))
    (.wait, hurried.memo)).move 1
      (.answered (strictRequest (some 1)) false (.error (.waitedTooLong "b(t): xxxx")))

/-- The verdict of caller `0` was not stored, so caller `2` leads. -/
def unhurried : SharedMemo Verdict :=
  ((refused.giveBack 0 (strictRequest (some 0)) 0 (.ok lateVerdict) ⟨some 1, [], [], 0, 1⟩).move 2
    (.entering (strictRequest none))).letIn 2 (strictRequest none)
      (.lead, ⟨some 1, [], ["b(t): xxxx"], 0, 2⟩)

/-- The verdict of caller `2` was stored. -/
def concluded : SharedMemo Verdict :=
  unhurried.giveBack 2 (strictRequest none) 1 (.ok (strictValidator.rules.verdict "b(t): xxxx"))
    ⟨some 1, [("b(t): xxxx", strictValidator.rules.verdict "b(t): xxxx")], [], 0, 2⟩

theorem reachable_concluded :
  Reachable (Validates strictValidator.rules) (.empty (some 1)) concluded
  := by
  have hasks : ∀ c seconds, Validates strictValidator.rules c (strictRequest seconds) :=
    fun _ seconds => ⟨"b(t): xxxx", seconds, rfl⟩
  have hstart : Reachable (Validates strictValidator.rules) (.empty (some 1))
      (start (.empty (some 1))) := .refl
  have hhurried : Reachable (Validates strictValidator.rules) (.empty (some 1)) hurried :=
    (hstart.tail (.turn (.call rfl (hasks 0 _)))).tail (.enter rfl)
  have hrefused : Reachable (Validates strictValidator.rules) (.empty (some 1)) refused :=
    ((hhurried.tail (.turn (.call rfl (hasks 1 _)))).tail (.enter rfl)).tail
      (.turn (.giveUp rfl nofun))
  have hlate : (strictRequest (some 0)).gives lateVerdict :=
    ⟨4, 0, _, fits_twoDone (some 0), RuleSet.attempt_eq_ok_iff.mpr ⟨by decide, rfl⟩⟩
  have hunhurried : Reachable (Validates strictValidator.rules) (.empty (some 1)) unhurried :=
    ((hrefused.tail (.giveBack rfl (.pass hlate (by decide)))).tail
      (.turn (.call rfl (hasks 2 _)))).tail (.enter rfl)
  have hverdict : (strictRequest none).gives (strictValidator.rules.verdict "b(t): xxxx") :=
    ⟨1, 0, .inTurn fun _ => 0, Int.le_refl 1, RuleSet.attempt_none _ _ _ _⟩
  have hkeeps : (strictRequest none).keeps (strictValidator.rules.verdict "b(t): xxxx") = true := by
    have hrules : RuleSet.ofConfig strictConfig = .ok strictValidator.rules := rfl
    obtain ⟨_, _, hread⟩ := RuleSet.exists_readFrom hrules
    simp [strictRequest, request, RuleSet.timedOut_verdict hread.inOrder]
  exact hunhurried.tail (.giveBack rfl (.store hverdict hkeeps))

/-- The strict validator with the memo that the callers leave. -/
def concludedValidator : Validator Unit := { strictValidator with memo := some concluded.memo }

theorem session_transparent_strict :
  RuleSet.ofConfig strictConfig = .ok strictValidator.rules
    ∧ Memo.make? (some 1) = .ok (.empty (some 1) : Memo Verdict)
    ∧ Reachable (Validates strictValidator.rules) (.empty (some 1)) concluded
    ∧ concludedValidator.Fits twoDone
    ∧ (∃ verdict, reply strictValidator.rules (strictRequest (some 1))
        (.error (.waitedTooLong "b(t): xxxx")) = .ok verdict ∧ verdict.ruleNames = ["timeout"])
    ∧ ∃ verdict t, concludedValidator.validate "b(t): xxxx" (some (.seconds 0)) twoDone
        = (.ok verdict, [], { concludedValidator with memo := some t.memo })
      ∧ Reachable (Validates strictValidator.rules) (.empty (some 1)) t
      ∧ verdict.timedOut = false ∧ verdict = strictValidator.rules.verdict "b(t): xxxx"
  := by
  have hrules : RuleSet.ofConfig strictConfig = .ok strictValidator.rules := rfl
  have hm : Memo.make? (some 1) = .ok (.empty (some 1) : Memo Verdict) := rfl
  have hfits : concludedValidator.Fits twoDone := fits_twoDone
  obtain ⟨hentries, -, hgaveUp, hvalidate⟩ :=
    session_transparent (O := Unit) hrules hm reachable_concluded
  refine ⟨hrules, hm, reachable_concluded, hfits, ?_, ?_⟩
  · obtain ⟨verdict, hreply, -, -, hviolations⟩ := hgaveUp 1 _ _ rfl
    use verdict, hreply
    rw [Verdict.ruleNames, hviolations]
    rfl
  · have htime : (strictValidator.rules.verdict "b(t): xxxx").timedOut = false :=
      (hentries _ (List.mem_singleton.mpr rfl)).2
    obtain ⟨t, ht, hanswered⟩ :=
      hvalidate concludedValidator "b(t): xxxx" (some (.seconds 0)) twoDone (some 0) rfl rfl hfits
        rfl
    have hstored : (concludedValidator.validate "b(t): xxxx" (some (.seconds 0)) twoDone).1
        = .ok (strictValidator.rules.verdict "b(t): xxxx") := rfl
    rcases hanswered with ⟨verdict, hfound, hverdict⟩ | ⟨hfails, -⟩
    · rw [hfound] at hstored
      have hfresh : verdict = strictValidator.rules.verdict "b(t): xxxx" := Except.ok.inj hstored
      rw [← hfresh] at htime
      exact ⟨verdict, t, hfound, ht, htime, hverdict htime⟩
    · rw [hfails] at hstored
      cases hstored

end CommitPolicy.Validator
