import CommitPolicy.Proofs.Validator.Batch
import Mathlib.Algebra.BigOperators.Group.Finset.Piecewise
import Mathlib.Algebra.Order.BigOperators.Group.Finset
import Mathlib.Data.Prod.Lex
import Mathlib.Order.OrderIsoNat

/-!
# Batches come to an end

The callers of a batch can go on as long as a message has no answer, and they cannot go on forever:
each step either brings a caller closer to its answer, or makes it wait for an event that is not
set, or wakes it up.  So every batch ends with an answer to each message.
-/

namespace CommitPolicy

open SharedMemo Validator

/-! ### Sums over callers -/

section Sum

variable {V : Type} (w : Phase V → Nat) (phase : Nat → Phase V) (p : Phase V) {i n : Nat}

/-- A sum over the callers when one of them goes on to another phase. -/
theorem sum_update_add (hi : i < n) :
  (∑ j ∈ Finset.range n, w (Function.update phase i p j)) + w (phase i)
    = (∑ j ∈ Finset.range n, w (phase j)) + w p
  := by
  have hmem : i ∈ Finset.range n := Finset.mem_range.mpr hi
  rw [← Finset.sum_erase_add _ _ hmem, ← Finset.sum_erase_add (Finset.range n) _ hmem,
    Function.update_self]
  have hrest : ∑ j ∈ (Finset.range n).erase i, w (Function.update phase i p j)
      = ∑ j ∈ (Finset.range n).erase i, w (phase j) := by
    apply Finset.sum_congr rfl
    intro j hj
    rw [Function.update_of_ne (Finset.ne_of_mem_erase hj)]
  rw [hrest]
  omega

end Sum

/-- How far a caller is from its answer. -/
def Phase.distance {V : Type} : Phase V → Nat
  | idle => 4
  | entering _ => 3
  | waiting _ _ => 3
  | computing _ _ => 2
  | ending _ _ _ => 1
  | _ => 0

/-- How many steps a caller takes before it leads, has an answer, or waits for an event that is not
set. -/
def Phase.turns {V : Type} (isSet : Nat → Bool) : Phase V → Nat
  | entering _ => 1
  | waiting _ event => if isSet event then 2 else 0
  | _ => 0

namespace Batch

variable {b : Batch} {m : Memo Verdict} {s t : SharedMemo Verdict} {i event : Nat}
  {r : Request Verdict} {p : Phase Verdict}

/-- What is left to do: the distances of the callers from their answers, and then their turns. -/
def rank (b : Batch) (s : SharedMemo Verdict) : ℕ ×ₗ ℕ :=
  toLex (∑ i ∈ Finset.range b.messages.length, (s.phase i).distance,
    ∑ i ∈ Finset.range b.messages.length, (s.phase i).turns s.isSet)

theorem rank_lt_of_distance (hi : i < b.messages.length)
    (hphase : t.phase = Function.update s.phase i p)
    (h : p.distance < (s.phase i).distance) :
  b.rank t < b.rank s
  := by
  have hsum := sum_update_add Phase.distance s.phase p hi
  apply Prod.Lex.toLex_lt_toLex.mpr
  apply Or.inl
  rw [hphase]
  omega

theorem rank_lt_of_turns (hi : i < b.messages.length)
    (hphase : t.phase = Function.update s.phase i p) (hset : t.isSet = s.isSet)
    (hdistance : p.distance = (s.phase i).distance)
    (h : p.turns s.isSet < (s.phase i).turns s.isSet) :
  b.rank t < b.rank s
  := by
  have hsum := sum_update_add Phase.distance s.phase p hi
  have hturns := sum_update_add (Phase.turns s.isSet) s.phase p hi
  apply Prod.Lex.toLex_lt_toLex.mpr
  apply Or.inr
  rw [hphase, hset]
  constructor
  · change ∑ j ∈ Finset.range _, Phase.distance _ = ∑ j ∈ Finset.range _, Phase.distance _
    omega
  · change ∑ j ∈ Finset.range _, Phase.turns _ _ < ∑ j ∈ Finset.range _, Phase.turns _ _
    omega

theorem Asks.lt (h : b.Asks i r) :
  i < b.messages.length
  := by
  obtain ⟨message, hmessage, -⟩ := h
  exact (List.getElem?_eq_some_iff.mp hmessage).1

/-- Every step leaves less to do. -/
theorem Step.rank_lt (h : b.Step s t) (hs : b.Sound s) :
  b.rank t < b.rank s
  := by
  have hlt : ∀ i r, (s.phase i).request? = some r → i < b.messages.length := by
    intro i r hr
    apply (hs.proper.asked i r hr).lt
  cases h with
  | @call i r hphase hasks hroom =>
      apply rank_lt_of_distance hasks.lt rfl
      simp [hphase, Phase.distance]
  | @enter i r hphase =>
      have hi := hlt i r (by rw [hphase]; rfl)
      obtain ⟨verdict, -, henter⟩ | ⟨-, hkey, henter⟩ | ⟨-, -, henter⟩ :=
        Memo.enter_cases s.memo r.key
      · rw [henter]
        apply rank_lt_of_distance hi rfl
        simp [hphase, Phase.distance]
      · -- The event of a key in flight is not set.
        have hset := hs.owed.isSet_eventOf hs.led hkey
        rw [henter]
        refine rank_lt_of_turns hi rfl rfl ?_ ?_
        · simp [hphase, Phase.distance]
        · simp [hphase, Phase.turns, hset]
      · rw [henter]
        apply rank_lt_of_distance hi rfl
        simp [hphase, Phase.distance]
  | @wake i event r hphase hset =>
      refine rank_lt_of_turns (hlt i r (by rw [hphase]; rfl)) rfl rfl ?_ ?_
      · simp [hphase, Phase.distance]
      · simp [hphase, Phase.turns, hset]
  | @giveUp i event r hphase htimeout =>
      apply rank_lt_of_distance (hlt i r (by rw [hphase]; rfl)) rfl
      simp [hphase, Phase.distance]
  | @conclude i event r verdict hphase hgives =>
      apply rank_lt_of_distance (hlt i r (by rw [hphase]; rfl)) rfl
      simp [hphase, Phase.distance]
  | @signal i event r result hphase =>
      apply rank_lt_of_distance (hlt i r (by rw [hphase]; rfl)) rfl
      simp [hphase, Phase.distance]

/-- The callers do not go on forever, in whatever order they take their steps. -/
theorem exists_not_step [ReadingLimits] {cfg : Config} (hrules : RuleSet.ofConfig cfg = .ok b.rules)
    (hm : AtRest b.rules m) (run : Nat → SharedMemo Verdict) (hrun : run 0 = start m) :
  ∃ n, ¬ b.Step (run n) (run (n + 1))
  := by
  by_contra hforever
  push Not at hforever
  have hreachable : ∀ n, b.Reachable m (run n) := by
    intro n
    induction n with
    | zero =>
        rw [hrun]
        apply Relation.ReflTransGen.refl
    | succ n ih => apply ih.tail (hforever n)
  apply not_strictAnti_of_wellFoundedLT fun n => b.rank (run n)
  apply strictAnti_nat_of_succ_lt
  intro n
  apply (hforever n).rank_lt ((hreachable n).sound hrules hm)

/-! ### The end -/

section Stuck

variable (hs : b.Sound s) (hstuck : ∀ t, ¬ b.Step s t)
include hs hstuck

theorem not_owes_of_stuck (c : Nat) (key : String) (event : Nat) :
  (s.phase c).owes? ≠ some (key, event)
  := by
  intro howes
  obtain ⟨r, -, hphase | ⟨result, hphase⟩⟩ := exists_of_owes? howes
  · obtain ⟨message, -, rfl⟩ : b.Asks c r := by
      apply hs.proper.asked c r
      rw [hphase]
      rfl
    obtain ⟨verdict, hgives⟩ := exists_gives b.rules message b.seconds
    apply hstuck _ (.conclude hphase hgives)
  · apply hstuck _ (.signal hphase)

/-- If no caller can take a step, none is under way: one that waits for an event that is not set
waits for a caller that can take a step. -/
theorem idle_or_answered_of_stuck (c : Nat) :
  s.phase c = .idle ∨ ∃ r ran result, s.phase c = .answered r ran result
  := by
  cases hphase : s.phase c with
  | idle => apply Or.inl rfl
  | entering r => cases hstuck _ (.enter hphase)
  | waiting r event =>
      cases hset : s.isSet event with
      | true => cases hstuck _ (.wake hphase hset)
      | false =>
          have hawaits : (s.phase c).awaits? = some (r.key, event) := by
            rw [hphase]
            rfl
          obtain ⟨leader, hleader⟩ := hs.awaited c r.key event hawaits hset
          cases not_owes_of_stuck hs hstuck leader r.key event hleader
  | computing r event =>
      have howes : (s.phase c).owes? = some (r.key, event) := by
        rw [hphase]
        rfl
      cases not_owes_of_stuck hs hstuck c r.key event howes
  | ending r event result => cases hstuck _ (.signal hphase)
  | answered r ran result => exact Or.inr ⟨r, ran, result, rfl⟩
  | got key value =>
      have hidle := hs.proper.idle c (by rw [hphase]; rfl)
      rw [hphase] at hidle
      cases hidle
  | told key present =>
      have hidle := hs.proper.idle c (by rw [hphase]; rfl)
      rw [hphase] at hidle
      cases hidle

end Stuck

theorem underWay_eq_zero (hquiet : ∀ c, (s.phase c).isUnderWay = false) :
  b.underWay s = 0
  := by
  rw [underWay, List.countP_eq_zero]
  intro c _
  simp [hquiet c]

/-- When no caller can take a step, every message has an answer. -/
theorem exists_answered_of_stuck (hs : b.Sound s) (hlimit : 0 < b.limit)
    (hstuck : ∀ t, ¬ b.Step s t) (hi : i < b.messages.length) :
  ∃ r ran result, s.phase i = .answered r ran result
  := by
  have hphases := idle_or_answered_of_stuck hs hstuck
  rcases hphases i with hidle | hanswered
  · have hquiet : ∀ c, (s.phase c).isUnderWay = false := by
      intro c
      rcases hphases c with hc | ⟨r, ran, result, hc⟩
      · rw [hc]
        rfl
      · rw [hc]
        rfl
    have hroom : b.underWay s < b.limit := by
      rw [underWay_eq_zero hquiet]
      apply hlimit
    have hasks : b.Asks i (b.request b.messages[i]) :=
      ⟨_, List.getElem?_eq_getElem hi, rfl⟩
    cases hstuck _ (.call hidle hasks hroom)
  · apply hanswered

theorem exists_of_verdict? {rs : RuleSet} {verdict : Verdict} (h : p.verdict? rs = some verdict) :
  ∃ r ran result, p = .answered r ran result ∧ reply rs r result = .ok verdict
  := by
  cases p with
  | answered r ran result =>
      use r, ran, result, rfl
      change (reply rs r result).toOption = some verdict at h
      cases hreply : reply rs r result with
      | ok v =>
          rw [hreply] at h
          cases h
          rfl
      | error e =>
          rw [hreply] at h
          cases h
  | _ => cases h

/-- A caller with an answer has come to a verdict on its message. -/
theorem Sound.exists_answers (hs : b.Sound s) {ran : Bool} {result : Except Failure Verdict}
    (hphase : s.phase i = .answered r ran result) :
  ∃ message verdict, b.messages[i]? = some message ∧ r = b.request message
    ∧ reply b.rules r result = .ok verdict ∧ Answers b.rules b.seconds message verdict
  := by
  obtain ⟨message, hmessage, rfl⟩ : b.Asks i r := by
    apply hs.proper.asked i r
    rw [hphase]
    rfl
  have hconcludes : Concludes b.rules (b.request message) result := by
    apply hs.proper.concluded i
    rw [hphase]
    rfl
  obtain ⟨verdict, hreply, hanswers⟩ := hconcludes.exists_reply
  use message, verdict, hmessage, rfl, hreply

theorem Sound.exists_gathers (hs : b.Sound s) (hlimit : 0 < b.limit)
    (hstuck : ∀ t, ¬ b.Step s t) :
  ∃ verdicts, b.Gathers s verdicts
  := by
  use (List.range b.messages.length).map fun i => ((s.phase i).verdict? b.rules).getD .passed
  rw [Gathers, List.map_map]
  apply List.map_congr_left
  intro i hi
  obtain ⟨r, ran, result, hphase⟩ :=
    exists_answered_of_stuck hs hlimit hstuck (List.mem_range.mp hi)
  obtain ⟨message, verdict, -, -, hreply, -⟩ := hs.exists_answers hphase
  have hverdict : (s.phase i).verdict? b.rules = some verdict := by
    rw [hphase, Phase.verdict?, hreply]
    rfl
  rw [Function.comp_apply, hverdict]
  rfl

theorem Gathers.exists_answered {verdicts : List Verdict} (h : b.Gathers s verdicts)
    (hi : i < b.messages.length) :
  ∃ r ran result verdict, s.phase i = .answered r ran result
    ∧ reply b.rules r result = .ok verdict ∧ verdicts[i]? = some verdict
  := by
  have hget : some ((s.phase i).verdict? b.rules) = verdicts[i]?.map some := by
    simpa [hi] using congrArg (·[i]?) h
  cases hverdict : verdicts[i]? with
  | none =>
      rw [hverdict] at hget
      cases hget
  | some verdict =>
      rw [hverdict] at hget
      obtain ⟨r, ran, result, hphase, hreply⟩ := exists_of_verdict? (Option.some.inj hget)
      use r, ran, result, verdict, hphase, hreply

/-- The verdicts that a batch has come to are answers to its messages. -/
theorem Gathers.answers {verdicts : List Verdict} (h : b.Gathers s verdicts) (hs : b.Sound s) :
  List.Forall₂ (Answers b.rules b.seconds) b.messages verdicts
  := by
  rw [List.forall₂_iff_get]
  constructor
  · simpa using congrArg List.length h
  · intro i hi hi'
    obtain ⟨r, ran, result, verdict, hphase, hreply, hverdict⟩ := h.exists_answered hi
    obtain ⟨message, verdict', hmessage, -, hreply', hanswers⟩ := hs.exists_answers hphase
    obtain rfl := Except.ok.inj (hreply.symm.trans hreply')
    obtain ⟨_, rfl⟩ := List.getElem?_eq_some_iff.mp hmessage
    obtain ⟨_, rfl⟩ := List.getElem?_eq_some_iff.mp hverdict
    apply hanswers

/-! ### One after the other -/

/-- No caller has a request without an answer. -/
def Quiet (s : SharedMemo Verdict) : Prop := ∀ c, (s.phase c).isUnderWay = false

/-- When a batch has come to its verdicts, every caller has its answer. -/
theorem Gathers.quiet {verdicts : List Verdict} (h : b.Gathers s verdicts) (hs : b.Sound s) :
  Quiet s
  := by
  intro c
  cases hrequest : (s.phase c).request? with
  | none =>
      rw [hs.proper.idle c hrequest]
      rfl
  | some r =>
      obtain ⟨_, _, _, _, hphase, -⟩ := h.exists_answered (hs.proper.asked c r hrequest).lt
      rw [hphase]
      rfl

theorem Quiet.inFlight (hquiet : Quiet s) (hled : s.Led) :
  s.memo.inFlight = []
  := by
  rw [List.eq_nil_iff_forall_not_mem]
  intro key hkey
  obtain ⟨c, hc⟩ := hled.exists_leader key hkey
  obtain ⟨r, hphase, -⟩ := exists_of_leads? hc
  have hc' := hquiet c
  rw [hphase] at hc'
  cases hc'

theorem Quiet.update (hquiet : Quiet s) {ran : Bool} {result : Except Failure Verdict}
    (hphase : t.phase = Function.update s.phase i (.answered r ran result)) :
  Quiet t
  := by
  intro c
  rw [hphase, Function.update_apply]
  split
  · rfl
  · apply hquiet c

/-- A leader can conclude and set its event next. -/
theorem exists_reachable_conclude (hs : b.Reachable m s) (hphase : s.phase i = .computing r event)
    {verdict : Verdict} (hgives : r.gives verdict) :
  ∃ t, b.Reachable m t
    ∧ t.memo = (if r.keeps verdict then s.memo.settle r.key verdict else s.memo.release r.key)
    ∧ t.phase = Function.update s.phase i (.answered r true (.ok verdict))
  := by
  have hconcluded := hs.tail (.conclude hphase hgives)
  exact ⟨_, hconcluded.tail (.signal (Function.update_self ..)), rfl, Function.update_idem ..⟩

/-- While no validation is under way, one that nobody interrupts can be done next, if it comes to a
verdict. -/
theorem exists_reachable_answer (hs : b.Reachable m s) (hled : s.Led) (hquiet : Quiet s)
    (hlimit : 0 < b.limit) (hidle : s.phase i = .idle) {message : String}
    (hmessage : b.messages[i]? = some message) {timing : Timing} {workers : Int}
    (hfits : (timing.course b.seconds).Fits workers b.seconds b.rules.rules.length)
    {verdict : Verdict} {memo : Option (Memo Verdict)}
    (hanswer : answer b.rules message b.seconds timing (some s.memo) = (.ok verdict, memo)) :
  ∃ (t : SharedMemo Verdict) (ran : Bool), memo = some t.memo ∧ b.Reachable m t
    ∧ t.phase = Function.update s.phase i (.answered (b.request message) ran (.ok verdict))
  := by
  have hroom : b.underWay s < b.limit := by
    rw [underWay_eq_zero hquiet]
    apply hlimit
  have hasks : b.Asks i (b.request message) := ⟨message, hmessage, rfl⟩
  have hcalled : b.Reachable m (s.move i (.entering (b.request message))) :=
    hs.tail (.call hidle hasks hroom)
  have hentered : b.Reachable m ((s.move i (.entering (b.request message))).letIn i
      (b.request message) (s.memo.enter message)) := hcalled.tail (.enter (phase_move s i _))
  obtain ⟨stored, -, henter⟩ | ⟨-, hkey, -⟩ | ⟨-, -, henter⟩ := Memo.enter_cases s.memo message
  · rw [henter] at hentered
    rw [answer, henter] at hanswer
    cases hanswer
    exact ⟨_, false, rfl, hentered, Function.update_idem ..⟩
  · rw [hquiet.inFlight hled] at hkey
    cases hkey
  · rw [henter] at hentered
    simp only [answer, henter] at hanswer
    obtain ⟨hattempt, hmemo⟩ := Prod.mk.inj hanswer
    have hgives : (b.request message).gives verdict :=
      ⟨workers, timing.start, _, hfits, hattempt⟩
    obtain ⟨t, ht, hafter, hphase⟩ := exists_reachable_conclude hentered (phase_lead ..) hgives
    refine ⟨t, true, ?_, ht, ?_⟩
    · rw [← hmemo, hattempt, hafter]
      cases htime : verdict.timedOut with
      | true =>
          simp [request, Validator.request, conclude, htime]
          rfl
      | false =>
          simp [request, Validator.request, conclude, htime]
          rfl
    · rw [hphase]
      change Function.update (Function.update (Function.update s.phase i _) i _) i _ = _
      rw [Function.update_idem, Function.update_idem]

section ValidateAll

variable {O : Type} {v : Validator O} (hrules : v.rules = b.rules)
  (hseconds : v.allowance none = .ok b.seconds) {timing : Timing} (hfits : v.Fits timing)
  (hlimit : 0 < b.limit)
include hrules hseconds hfits hlimit

/-- The messages that are left can be validated one after the other, unless one of them would have
to wait for too long. -/
theorem exists_reachable_validateAll [ReadingLimits] {cfg : Config}
    (hcfg : RuleSet.ofConfig cfg = .ok b.rules) (hm : AtRest b.rules m) (rest : List String)
    {done : List String} {s : SharedMemo Verdict} (hmessages : b.messages = done ++ rest)
    (hs : b.Reachable m s) (hquiet : Quiet s) (hidle : ∀ c, done.length ≤ c → s.phase c = .idle) :
  (∃ verdicts told t,
    { v with memo := some s.memo }.validateAll timing rest
        = (.ok verdicts, told, { v with memo := some t.memo })
      ∧ b.Reachable m t ∧ (∀ c < done.length, t.phase c = s.phase c)
      ∧ (List.range' done.length rest.length).map (fun i => (t.phase i).verdict? b.rules)
        = verdicts.map some)
    ∨ ∃ message ∈ rest, MayRefuse b.rules message b.seconds timing
      ∧ ∃ told w,
        { v with memo := some s.memo }.validateAll timing rest = (.error .overflow, told, w)
  := by
  induction rest generalizing done s with
  | nil => exact .inl ⟨[], [], s, rfl, hs, fun _ _ => rfl, rfl⟩
  | cons message rest ih =>
      have hmessage : b.messages[done.length]? = some message := by simp [hmessages]
      have hallowed : { v with memo := some s.memo }.allowance none = .ok b.seconds := hseconds
      rcases answer_cases b.rules message b.seconds timing (some s.memo) with
        ⟨verdict, memo, hanswer⟩ | ⟨memo, hanswer, hrefused⟩
      · obtain ⟨t, ran, rfl, ht, hphase⟩ :=
          exists_reachable_answer hs (hs.sound hcfg hm).led hquiet hlimit
            (hidle done.length (Nat.le_refl _)) hmessage (hrules ▸ hfits b.seconds) hanswer
        have hlater : ∀ c, done.length + 1 ≤ c → t.phase c = .idle := by
          intro c hc
          rw [hphase, Function.update_of_ne (by omega)]
          apply hidle c (by omega)
        have hrest : b.messages = (done ++ [message]) ++ rest := by simp [hmessages]
        rw [← hrules] at hanswer
        rw [Validator.validateAll, validate_of_answer hallowed hanswer]
        rcases ih hrest ht (hquiet.update hphase) (by simpa using hlater) with
          ⟨verdicts, told, u, hall, hu, hothers, hverdicts⟩ | ⟨late, hlate, hrefused, told, w, hall⟩
        · rw [List.length_append, List.length_singleton] at hothers hverdicts
          simp only [hall]
          refine .inl ⟨verdict :: verdicts, v.notices message verdict ++ told, u, rfl, hu, ?_, ?_⟩
          · intro c hc
            rw [hothers c (by omega), hphase, Function.update_of_ne (by omega)]
          · rw [List.length_cons, List.range'_succ, List.map_cons, hverdicts,
              hothers done.length (by omega), hphase, Function.update_self]
            rfl
        · simp only [hall]
          exact .inr ⟨late, List.mem_cons_of_mem message hlate, hrefused, _, _, rfl⟩
      · rw [← hrules] at hanswer
        rw [Validator.validateAll, validate_of_answer_error hallowed hanswer]
        exact .inr ⟨message, List.mem_cons_self, hrefused, _, _, rfl⟩

end ValidateAll

/-- A batch cannot go on forever, and there is a verdict on each message when it cannot go on. -/
structure Ends (b : Batch) (m : Memo Verdict) : Prop where
  stops : ∀ run : Nat → SharedMemo Verdict, run 0 = start m →
    ∃ n, ¬ b.Step (run n) (run (n + 1))
  gathers : ∀ s, b.Reachable m s → (∀ t, ¬ b.Step s t) → ∃ verdicts, b.Gathers s verdicts

theorem Ends.of_atRest [ReadingLimits] {cfg : Config} (hrules : RuleSet.ofConfig cfg = .ok b.rules)
    (hm : AtRest b.rules m) (hlimit : 0 < b.limit) :
  b.Ends m
  := by
  constructor
  · apply exists_not_step hrules hm
  · intro s hs hstuck
    apply (hs.sound hrules hm).exists_gathers hlimit hstuck

end Batch

/-! ### Batches of a validator -/

namespace Validator

variable {O : Type} {v : Validator O} {cfg : Config}

/-- A validator with the policy of a configuration, which nobody uses at the moment: its memo, if it
has one, is what earlier callers have left, each of which had a deadline of its own or none. -/
structure Used [ReadingLimits] (v : Validator O) (cfg : Config) : Prop where
  rules : RuleSet.ofConfig cfg = .ok v.rules
  memo : ∀ m ∈ v.memo, ∃ maxSize new s, Memo.make? maxSize = .ok new
    ∧ Reachable (Validates v.rules) new s ∧ s.memo = m ∧ m.inFlight = []

theorem Used.atRest [ReadingLimits] (hv : v.Used cfg) {m : Memo Verdict} (hm : v.memo = some m) :
  Batch.AtRest v.rules m
  := by
  obtain ⟨maxSize, new, s, hnew, hs, rfl, hflight⟩ := hv.memo m hm
  have hsound := (hs.sound hnew).1
  constructor
  · apply hsound.consistent
  · apply hflight
  · intro e he
    apply (eq_verdict_of_wasStored hv.rules hsound.recorded (hsound.recorded.entries e he)).1

/-- The messages as a batch, each one to be validated within so many seconds, and `concurrency` at a
time if that is at least one. -/
def batch (v : Validator O) (messages : List String) (seconds : Option Float) (concurrency : Int) :
    Batch :=
  ⟨v.rules, messages, seconds, (max 1 concurrency).toNat⟩

theorem batch_limit_pos (v : Validator O) (messages : List String) (seconds : Option Float)
    (concurrency : Int) :
  0 < (v.batch messages seconds concurrency).limit
  := by
  rw [batch, Int.lt_toNat]
  omega

/-- What validating messages at the same time comes to, `concurrency` at a time if that is at least
one: the verdicts, and the memo afterwards.  Without a memo the validations have nothing in common;
with a memo they take their steps in some order. -/
inductive ComesTo (v : Validator O) (messages : List String) (seconds : Option Float)
    (concurrency : Int) : List Verdict → Option (Memo Verdict) → Prop
  | apart {verdicts : List Verdict} (hmemo : v.memo = none)
      (hverdicts : List.Forall₂ (fun message verdict => ∃ timing, v.Fits timing
        ∧ (answer v.rules message seconds timing v.memo).1 = .ok verdict) messages verdicts) :
      ComesTo v messages seconds concurrency verdicts none
  | together {m : Memo Verdict} {s : SharedMemo Verdict} {verdicts : List Verdict}
      (hmemo : v.memo = some m) (hs : (v.batch messages seconds concurrency).Reachable m s)
      (hgathers : (v.batch messages seconds concurrency).Gathers s verdicts) :
      ComesTo v messages seconds concurrency verdicts (some s.memo)

/-- Whatever a batch comes to, the verdicts are answers to its messages. -/
theorem ComesTo.answers [ReadingLimits] {messages : List String} {seconds : Option Float}
    {concurrency : Int} {verdicts : List Verdict} {memo : Option (Memo Verdict)}
    (h : v.ComesTo messages seconds concurrency verdicts memo) (hv : v.Used cfg) :
  List.Forall₂ (Answers v.rules seconds) messages verdicts
  := by
  cases h with
  | apart hmemo hverdicts =>
      rw [hmemo] at hverdicts
      apply hverdicts.imp
      rintro message verdict ⟨timing, hfits, hattempt⟩
      apply Answers.judged (hfits seconds) hattempt
  | together hmemo hs hgathers => apply hgathers.answers (hs.sound hv.rules (hv.atRest hmemo))

/-- Messages that are validated one after the other without a memo. -/
theorem validateAll_of_memo_eq_none (hmemo : v.memo = none) {seconds : Option Float}
    (hseconds : v.allowance none = .ok seconds) {timing : Timing} (hfits : v.Fits timing)
    (messages : List String) :
  (∃ verdicts told, v.validateAll timing messages = (.ok verdicts, told, v)
    ∧ List.Forall₂ (fun message verdict => ∃ timing, v.Fits timing
      ∧ (answer v.rules message seconds timing v.memo).1 = .ok verdict) messages verdicts)
    ∨ ∃ message ∈ messages, MayRefuse v.rules message seconds timing
      ∧ ∃ told w, v.validateAll timing messages = (.error .overflow, told, w)
  := by
  induction messages with
  | nil => exact .inl ⟨[], [], rfl, .nil⟩
  | cons message rest ih =>
      rcases answer_cases v.rules message seconds timing v.memo with
        ⟨verdict, memo, hanswer⟩ | ⟨memo, hanswer, hrefused⟩
      · obtain rfl : memo = v.memo := by
          rw [hmemo, answer] at hanswer
          rw [hmemo, (Prod.mk.inj hanswer).2]
        rw [validateAll, validate_of_answer hseconds hanswer]
        rcases ih with ⟨verdicts, told, hall, hverdicts⟩ | ⟨late, hlate, hrefused, told, w, hall⟩
        · simp only [hall]
          exact .inl ⟨verdict :: verdicts, _, rfl,
            .cons ⟨timing, hfits, congrArg Prod.fst hanswer⟩ hverdicts⟩
        · simp only [hall]
          exact .inr ⟨late, List.mem_cons_of_mem message hlate, hrefused, _, _, rfl⟩
      · rw [validateAll, validate_of_answer_error hseconds hanswer]
        exact .inr ⟨message, List.mem_cons_self, hrefused, _, _, rfl⟩

/-- Messages that are validated one after the other are a batch in one of its orders, unless one of
them would have to wait for too long. -/
theorem validateAll_comesTo [ReadingLimits] (hv : v.Used cfg) {seconds : Option Float}
    (hseconds : v.allowance none = .ok seconds) {timing : Timing} (hfits : v.Fits timing)
    (messages : List String) (concurrency : Int) :
  (∃ verdicts told w, v.validateAll timing messages = (.ok verdicts, told, w)
    ∧ v.ComesTo messages seconds concurrency verdicts w.memo)
    ∨ ∃ message ∈ messages, MayRefuse v.rules message seconds timing
      ∧ ∃ told w, v.validateAll timing messages = (.error .overflow, told, w)
  := by
  cases hmemo : v.memo with
  | none =>
      apply (validateAll_of_memo_eq_none hmemo hseconds hfits messages).imp_left
      rintro ⟨verdicts, told, hall, hverdicts⟩
      use verdicts, told, v, hall
      rw [hmemo]
      apply ComesTo.apart hmemo hverdicts
  | some m =>
      have hsame : { v with memo := some (SharedMemo.start m).memo } = v := by
        rw [SharedMemo.start, ← hmemo]
      have hcases := Batch.exists_reachable_validateAll (b := v.batch messages seconds concurrency)
        rfl hseconds hfits (v.batch_limit_pos messages seconds concurrency) hv.rules
        (hv.atRest hmemo) messages (List.nil_append messages).symm .refl (fun _ => rfl)
        (fun _ _ => rfl)
      rw [hsame] at hcases
      apply hcases.imp_left
      rintro ⟨verdicts, told, s, hall, hs, -, hverdicts⟩
      have hgathers : (v.batch messages seconds concurrency).Gathers s verdicts := by
        rw [Batch.Gathers, List.range_eq_range']
        apply hverdicts
      exact ⟨verdicts, told, _, hall, .together hmemo hs hgathers⟩

/-- Without a deadline none of the messages would have to wait for too long. -/
theorem validateAll_comesTo_of_deadline_eq_none [ReadingLimits] (hv : v.Used cfg)
    (hdeadline : v.deadline = none) {timing : Timing} (hfits : v.Fits timing)
    (messages : List String) (concurrency : Int) :
  ∃ verdicts told w, v.validateAll timing messages = (.ok verdicts, told, w)
    ∧ v.ComesTo messages none concurrency verdicts w.memo
  := by
  have hallowance := allowance_none_of_deadline_eq_none hdeadline
  rcases validateAll_comesTo hv hallowance hfits messages concurrency with
    hcomes | ⟨message, -, hrefused, -⟩
  · apply hcomes
  · cases not_mayRefuse_none _ _ _ hrefused

end Validator

end CommitPolicy
