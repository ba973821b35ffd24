import CommitPolicy.Proofs.Memo.Signals
import CommitPolicy.Proofs.Validator.Session

/-!
# Messages that are validated at the same time

The messages of a batch are validated by callers of one memo, each one by a caller of its own and at
most so many at a time.  `Batch.Step` lists the steps that the callers can take, in any order, as
long as no validation fails because it would have to wait for too long; then there would be no
verdicts.  It is shown that

* every answer is one that a validation of the message of the caller can come to;
* a caller can take a step as long as there is a message without an answer;
* the callers do not go on forever, as each step lowers a rank;
* validating the messages one after the other is one of the orders.
-/

namespace CommitPolicy

open SharedMemo

/-! ### Batches -/

/-- Messages of which caller `i` validates number `i`, within so many seconds, and not more than
`limit` at a time. -/
structure Batch where
  rules : RuleSet
  messages : List String
  seconds : Option Float
  limit : Nat

/-- Whether a caller has made its request and has no answer. -/
def Phase.isUnderWay {V : Type} : Phase V → Bool
  | entering _ => true
  | waiting _ _ => true
  | computing _ _ => true
  | ending _ _ _ => true
  | _ => false

/-- The result that a caller has, and its request; the caller may still have to set its event. -/
def Phase.outcome? {V : Type} : Phase V → Option (Request V × Except Failure V)
  | ending r _ result => some (r, result)
  | answered r _ result => some (r, result)
  | _ => none

/-- The verdict that a caller has been answered. -/
def Phase.verdict? (rs : RuleSet) : Phase Verdict → Option Verdict
  | answered r _ result => (Validator.reply rs r result).toOption
  | _ => none

namespace Batch

/-- The request of the caller that validates a message. -/
def request (b : Batch) (message : String) : Request Verdict :=
  Validator.request b.rules message b.seconds

/-- Caller `i` validates message number `i`. -/
def Asks (b : Batch) (i : Nat) (r : Request Verdict) : Prop :=
  ∃ message, b.messages[i]? = some message ∧ r = b.request message

/-- The number of validations that are under way. -/
def underWay (b : Batch) (s : SharedMemo Verdict) : Nat :=
  (List.range b.messages.length).countP fun i => (s.phase i).isUnderWay

/-- The steps of the callers: a validation is started if there is room for one more, a caller enters
the memo, it is woken up or gives up waiting, a leader gives back its key with a verdict that its
rules can come to, which is stored if it may be, and after that sets its event. -/
inductive Step (b : Batch) (s : SharedMemo Verdict) : SharedMemo Verdict → Prop
  | call {i : Nat} {r : Request Verdict} (hphase : s.phase i = .idle) (hasks : b.Asks i r)
      (hroom : b.underWay s < b.limit) :
      Step b s (s.move i (.entering r))
  | enter {i : Nat} {r : Request Verdict} (hphase : s.phase i = .entering r) :
      Step b s (s.letIn i r (s.memo.enter r.key))
  | wake {i event : Nat} {r : Request Verdict} (hphase : s.phase i = .waiting r event)
      (hset : s.isSet event = true) :
      Step b s (s.move i (.entering r))
  | giveUp {i event : Nat} {r : Request Verdict} (hphase : s.phase i = .waiting r event)
      (htimeout : r.timeout ≠ none) :
      Step b s (s.move i (.answered r false (.error (.waitedTooLong r.key))))
  | conclude {i event : Nat} {r : Request Verdict} {verdict : Verdict}
      (hphase : s.phase i = .computing r event) (hgives : r.gives verdict) :
      Step b s (s.giveBack i r event (.ok verdict)
        (if r.keeps verdict then s.memo.settle r.key verdict else s.memo.release r.key))
  | signal {i event : Nat} {r : Request Verdict} {result : Except Failure Verdict}
      (hphase : s.phase i = .ending r event result) :
      Step b s (s.signal i r event result)

/-- The states that the callers come to. -/
def Reachable (b : Batch) (m : Memo Verdict) (s : SharedMemo Verdict) : Prop :=
  Relation.ReflTransGen b.Step (start m) s

/-- All validations are over and have come to these verdicts. -/
def Gathers (b : Batch) (s : SharedMemo Verdict) (verdicts : List Verdict) : Prop :=
  (List.range b.messages.length).map (fun i => (s.phase i).verdict? b.rules)
    = verdicts.map some

variable {b : Batch} {m : Memo Verdict} {s t : SharedMemo Verdict} {i event : Nat}
  {r : Request Verdict} {p : Phase Verdict}

/-- The callers are callers of a shared memo. -/
theorem Step.shared (h : b.Step s t) :
  SharedMemo.Step b.Asks s t
  := by
  cases h with
  | call hphase hasks => exact .turn (.call hphase hasks)
  | enter hphase => exact .enter hphase
  | wake hphase hset => exact .turn (.wake hphase hset)
  | giveUp hphase htimeout => exact .turn (.giveUp hphase htimeout)
  | @conclude i event r verdict hphase hgives =>
      apply SharedMemo.Step.giveBack hphase
      split
      · next hkeeps => exact .store hgives hkeeps
      · next hkeeps => exact .pass hgives (Bool.eq_false_iff.mpr hkeeps)
  | signal hphase => exact .signal hphase

end Batch

/-! ### Answers -/

namespace Validator

/-- The verdicts that a validation of a message within so many seconds can come to: the one that the
rules come to, whatever the clock shows and with any number of workers, the stored one, which is the
one without a deadline, and that it gave up waiting. -/
inductive Answers (rs : RuleSet) (seconds : Option Float) (message : String) : Verdict → Prop
  | judged {workers : Int} {start : Float} {course : Course} {verdict : Verdict}
      (hfits : course.Fits workers seconds rs.rules.length)
      (hattempt : rs.attempt message seconds start course = .ok verdict) :
      Answers rs seconds message verdict
  | stored : Answers rs seconds message (rs.verdict message)
  | gaveUp (hseconds : seconds ≠ none) : Answers rs seconds message (gaveUp rs seconds)

/-- The results that the request of a caller to the memo can have. -/
inductive Concludes (rs : RuleSet) (r : Request Verdict) : Except Failure Verdict → Prop
  | judged {verdict : Verdict} (hgives : r.gives verdict) : Concludes rs r (.ok verdict)
  | stored : Concludes rs r (.ok (rs.verdict r.key))
  | waited (htimeout : r.timeout ≠ none) : Concludes rs r (.error (.waitedTooLong r.key))

/-- The reply to a result is an answer. -/
theorem Concludes.exists_reply {rs : RuleSet} {message : String} {seconds : Option Float}
    {result : Except Failure Verdict} (h : Concludes rs (request rs message seconds) result) :
  ∃ verdict, reply rs (request rs message seconds) result = .ok verdict
    ∧ Answers rs seconds message verdict
  := by
  cases h with
  | @judged verdict hgives =>
      obtain ⟨workers, start, course, hfits, hattempt⟩ := hgives
      exact ⟨_, rfl, .judged hfits hattempt⟩
  | stored => exact ⟨_, rfl, .stored⟩
  | waited htimeout => exact ⟨_, rfl, .gaveUp htimeout⟩

/-- Some course of the rules gives a verdict, whatever the request. -/
theorem exists_gives (rs : RuleSet) (message : String) (seconds : Option Float) :
  ∃ verdict, (request rs message seconds).gives verdict
  := by
  have hrefuses : rs.refuses message seconds 0 (.inTurn fun _ => 0) = false := by
    rw [Bool.eq_false_iff, Ne, RuleSet.refuses_iff]
    rintro ⟨-, -, _, _, _, ⟨⟩, -⟩
  exact ⟨_, 1, 0, .inTurn fun _ => 0, Int.le_refl 1, RuleSet.attempt_eq_ok_iff.mpr ⟨hrefuses, rfl⟩⟩

end Validator

/-! ### What the callers keep -/

namespace Batch

open Validator

variable {b : Batch} {m : Memo Verdict} {s t : SharedMemo Verdict} {i event : Nat}
  {r : Request Verdict} {p : Phase Verdict}

/-- Callers do nothing but validate their messages, their results are as they can be, and the stored
verdicts are the ones without a deadline. -/
structure Proper (b : Batch) (s : SharedMemo Verdict) : Prop where
  idle : ∀ c, (s.phase c).request? = none → s.phase c = .idle
  asked : ∀ c r, (s.phase c).request? = some r → b.Asks c r
  concluded : ∀ c r result, (s.phase c).outcome? = some (r, result) → Concludes b.rules r result
  fresh : s.memo.Holds fun message verdict => verdict = b.rules.verdict message

/-- The caller goes on to a phase with its request. -/
theorem Proper.move (h : b.Proper s) (hphase : t.phase = Function.update s.phase i p)
    (hrequest : p.request? = some r) (hasks : b.Asks i r)
    (hconcluded : ∀ r result, p.outcome? = some (r, result) → Concludes b.rules r result)
    (hfresh : t.memo.Holds fun message verdict => verdict = b.rules.verdict message) :
  b.Proper t
  := by
  have hcases : ∀ c, (c = i ∧ t.phase c = p) ∨ t.phase c = s.phase c := by
    intro c
    rw [hphase, Function.update_apply]
    split
    · next hc => apply Or.inl ⟨hc, rfl⟩
    · apply Or.inr rfl
  constructor
  · intro c hc
    rcases hcases c with ⟨-, heq⟩ | heq
    · rw [heq, hrequest] at hc
      cases hc
    · rw [heq] at hc ⊢
      apply h.idle c hc
  · intro c r' hc
    rcases hcases c with ⟨rfl, heq⟩ | heq
    · rw [heq, hrequest] at hc
      obtain rfl := Option.some.inj hc
      apply hasks
    · rw [heq] at hc
      apply h.asked c r' hc
  · intro c r' result hc
    rcases hcases c with ⟨-, heq⟩ | heq
    · rw [heq] at hc
      apply hconcluded r' result hc
    · rw [heq] at hc
      apply h.concluded c r' result hc
  · apply hfresh

/-- The caller enters the memo: a verdict that it finds is the stored one. -/
theorem Proper.enter (h : b.Proper s) (hphase : s.phase i = .entering r) :
  b.Proper (s.letIn i r (s.memo.enter r.key))
  := by
  have hasks : b.Asks i r := by
    apply h.asked i r
    rw [hphase]
    rfl
  have hfresh := h.fresh.enter r.key
  obtain ⟨verdict, hget, henter⟩ | ⟨-, -, henter⟩ | ⟨-, -, henter⟩ := Memo.enter_cases s.memo r.key
  · rw [henter] at hfresh ⊢
    refine h.move rfl rfl hasks ?_ hfresh
    rintro _ _ ⟨⟩
    obtain rfl := h.fresh.of_get? hget
    apply Concludes.stored
  · rw [henter] at hfresh ⊢
    refine h.move rfl rfl hasks ?_ hfresh
    rintro _ _ ⟨⟩
  · rw [henter] at hfresh ⊢
    refine h.move rfl rfl hasks ?_ hfresh
    rintro _ _ ⟨⟩

section Rules

variable [ReadingLimits] {cfg : Config} (hrules : RuleSet.ofConfig cfg = .ok b.rules)
include hrules

/-- A leader concludes: what it stores is the verdict without a deadline. -/
theorem Proper.conclude (h : b.Proper s) (hphase : s.phase i = .computing r event)
    {verdict : Verdict} (hgives : r.gives verdict) :
  b.Proper (s.giveBack i r event (.ok verdict)
    (if r.keeps verdict then s.memo.settle r.key verdict else s.memo.release r.key))
  := by
  have hasks : b.Asks i r := by
    apply h.asked i r
    rw [hphase]
    rfl
  refine h.move rfl rfl hasks ?_ ?_
  · rintro _ _ ⟨⟩
    apply Concludes.judged hgives
  · change Memo.Holds _ (if r.keeps verdict then _ else _)
    split
    · next hkeeps =>
      apply h.fresh.settle
      obtain ⟨message, -, rfl⟩ := hasks
      have htime : verdict.timedOut = false := by simpa [request, Validator.request] using hkeeps
      apply eq_verdict_of_gives hrules hgives htime
    · apply h.fresh.release

theorem Step.proper (h : b.Step s t) (hs : b.Proper s) :
  b.Proper t
  := by
  cases h with
  | call hphase hasks hroom =>
      refine hs.move rfl rfl hasks ?_ hs.fresh
      rintro _ _ ⟨⟩
  | enter hphase => apply hs.enter hphase
  | @wake i event r hphase hset =>
      refine hs.move rfl rfl (hs.asked i r ?_) ?_ hs.fresh
      · rw [hphase]
        rfl
      · rintro _ _ ⟨⟩
  | @giveUp i event r hphase htimeout =>
      refine hs.move rfl rfl (hs.asked i r ?_) ?_ hs.fresh
      · rw [hphase]
        rfl
      · rintro _ _ ⟨⟩
        apply Concludes.waited htimeout
  | conclude hphase hgives => apply hs.conclude hrules hphase hgives
  | @signal i event r result hphase =>
      refine hs.move rfl rfl (hs.asked i r ?_) ?_ hs.fresh
      · rw [hphase]
        rfl
      · rintro _ _ ⟨⟩
        apply hs.concluded i r result
        rw [hphase]
        rfl

end Rules

/-- What holds of the memo and the callers in every state that they come to. -/
structure Sound (b : Batch) (s : SharedMemo Verdict) : Prop where
  consistent : s.memo.Consistent
  led : s.Led
  awaited : s.Awaited
  owed : s.Owed
  proper : b.Proper s

/-- A memo in which the verdicts without a deadline are stored, and that no caller uses. -/
structure AtRest (rs : RuleSet) (m : Memo Verdict) : Prop where
  consistent : m.Consistent
  inFlight : m.inFlight = []
  fresh : m.Holds fun message verdict => verdict = rs.verdict message

theorem Sound.start (hm : AtRest b.rules m) :
  b.Sound (start m)
  := by
  constructor
  · apply hm.consistent
  · apply Led.start hm.inFlight
  · rintro c key event ⟨⟩
  · apply Owed.start
  · constructor
    · intro c _
      rfl
    · rintro c r ⟨⟩
    · rintro c r result ⟨⟩
    · apply hm.fresh

section Rules

variable [ReadingLimits] {cfg : Config} (hrules : RuleSet.ofConfig cfg = .ok b.rules)
include hrules

theorem Step.sound (h : b.Step s t) (hs : b.Sound s) :
  b.Sound t
  := by
  constructor
  · apply (h.shared.consistent hs.consistent).1
  · apply h.shared.led hs.consistent hs.led
  · apply h.shared.awaited hs.led hs.awaited
  · apply h.shared.owed hs.owed
  · apply h.proper hrules hs.proper

theorem Reachable.sound (hm : AtRest b.rules m) (h : b.Reachable m s) :
  b.Sound s
  := by
  induction h with
  | refl => apply Sound.start hm
  | tail _ hstep ih => apply hstep.sound hrules ih

end Rules

end Batch

end CommitPolicy
