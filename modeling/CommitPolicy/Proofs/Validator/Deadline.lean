import CommitPolicy.Proofs.Policy.Deadline
import CommitPolicy.Proofs.Validator.Policy
import Mathlib.Data.Finset.Card

/-!
# Validators with workers and deadlines

What the number of workers and the deadline change in the verdict of a validator without a memo:

* the order in which workers finish changes nothing, and so without a deadline neither does their
  number;
* a deadline that is out of reach makes the validation fail: one that is too large for a number of
  seconds or, if a rule has to be waited for, too far away to wait for it;
* any other deadline either changes nothing, or the verdict says that time ran out and lists the
  violations of the rules that were completed.
-/

namespace CommitPolicy.Validator

variable {O : Type}

/-- The timings that a validator can have: the courses fit its workers. -/
def Fits (v : Validator O) (timing : Timing) : Prop :=
  ∀ seconds, (timing.course seconds).Fits v.workers seconds v.rules.rules.length

/-- The rules that a validator completes within so many seconds, in reporting order. -/
def completedRules (v : Validator O) (seconds : Option Float) (timing : Timing) :
    List ((Nat × Nat) × Rule) :=
  v.rules.completedRules seconds timing.start (timing.course seconds)

/-! ### Workers -/

/-- If the rules numbered in `D` are done when waiting ends, then their violations are reported in
the order of the rules, whatever the order `done` in which they were done.  Without a deadline any
workers, also those of a validator that was closed, give the verdict that one worker gives. -/
theorem evaluate_in_any_order [ReadingLimits] {cfg : Config} {rs : RuleSet}
    (hrules : RuleSet.ofConfig cfg = .ok rs) :
  (∀ (D : Finset Nat) (done : List Nat) (c : Commit) (message : String),
    (∀ i ∈ D, i < rs.rules.length) → done.Nodup → done.toFinset = D →
      RuleSet.sortedViolations (rs.collect c message done)
          = (rs.orderedRules.filter fun x => x.1.2 ∈ D).filterMap (fun x => x.2.check c message)
        ∧ done.length = D.card)
    ∧ ∀ (v : Validator O) (timing : Timing) (message : String), v.rules = rs →
      v.Fits timing ∨ v.close.Fits timing →
        v.rules.attempt message none timing.start (timing.course none) = .ok (rs.verdict message)
  := by
  obtain ⟨_, _, hread⟩ := RuleSet.exists_readFrom hrules
  constructor
  · rintro _ done c message hlt hnodup rfl
    have hdone : ∀ i ∈ done, i < rs.rules.length := by
      intro i hi
      apply hlt i (List.mem_toFinset.mpr hi)
    constructor
    · rw [RuleSet.sortedViolations_collect hnodup hdone hread.inOrder]
      simp only [RuleSet.violationsOf, RuleSet.numbered, List.mem_toFinset]
    · rw [List.toFinset_card_of_nodup hnodup]
  · rintro v timing message rfl hfits
    rcases hfits with hfits | hfits
    · apply RuleSet.attempt_of_fits hread.inOrder (hfits none)
    · apply RuleSet.attempt_of_fits hread.inOrder (hfits none)

/-- The scope and the last rule are the ones that are done, the last rule first. -/
theorem evaluate_in_any_order_strict :
  (∀ i ∈ ({1, 5} : Finset Nat), i < strictValidator.rules.rules.length) ∧ [5, 1].Nodup
    ∧ [5, 1].toFinset = {1, 5}
    ∧ (RuleSet.sortedViolations (strictValidator.rules.collect
        ⟨"b", some "t", false, false, "xxxx", none, [], [], []⟩ "b(t): xxxx" [5, 1])).map (·.rule)
      = ["scope", "q"]
    ∧ strictValidator.Fits outOfOrder
    ∧ strictValidator.rules.attempt "b(t): xxxx" none 0 (outOfOrder.course none)
      = .ok (strictValidator.rules.verdict "b(t): xxxx")
  := by
  have hrules : RuleSet.ofConfig strictConfig = .ok strictValidator.rules := rfl
  have hlt : ∀ i ∈ ({1, 5} : Finset Nat), i < strictValidator.rules.rules.length := by decide
  have hfits : strictValidator.Fits outOfOrder := by
    rintro seconds
    refine ⟨by decide, by decide, by decide, fun _ => by decide⟩
  obtain ⟨hsorted, hverdict⟩ := evaluate_in_any_order (O := Unit) hrules
  refine ⟨hlt, by decide, by decide, ?_, hfits, ?_⟩
  · rw [(hsorted {1, 5} [5, 1] _ _ hlt (by decide) (by decide)).1]
    decide
  · apply hverdict strictValidator outOfOrder "b(t): xxxx" rfl (Or.inl hfits)

/-! ### Refusals -/

/-- A validation within so many seconds would have to wait for longer than is possible, for its
rules or for another caller at work on the message. -/
def MayRefuse (rs : RuleSet) (message : String) (seconds : Option Float) (timing : Timing) : Prop :=
  refusesWait (seconds.map (timing.asks + ·)) timing.waits = true
    ∨ rs.refuses message seconds timing.start (timing.course seconds) = true

/-- Without a deadline nothing is refused. -/
theorem not_mayRefuse_none (rs : RuleSet) (message : String) (timing : Timing) :
  ¬MayRefuse rs message none timing
  := by
  rintro (⟨⟨⟩⟩ | hrefuses)
  rw [RuleSet.refuses_iff] at hrefuses
  obtain ⟨-, -, _, _, _, -, ⟨⟩, -⟩ := hrefuses

/-- A validation that comes to no verdict would have to wait for too long. -/
theorem answer_cases (rs : RuleSet) (message : String) (seconds : Option Float) (timing : Timing)
    (memo : Option (Memo Verdict)) :
  (∃ verdict memo', answer rs message seconds timing memo = (.ok verdict, memo'))
    ∨ ∃ memo', answer rs message seconds timing memo = (.error .overflow, memo')
      ∧ MayRefuse rs message seconds timing
  := by
  have hattempt := rs.attempt_cases message seconds timing.start (timing.course seconds)
  cases memo with
  | none =>
      rw [answer]
      rcases hattempt with ⟨verdict, hverdict⟩ | ⟨hfails, hrefuses⟩
      · rw [hverdict]
        exact .inl ⟨verdict, none, rfl⟩
      · rw [hfails]
        exact .inr ⟨none, rfl, .inr hrefuses⟩
  | some memo =>
      rw [answer]
      obtain ⟨found, entered⟩ := memo.enter message
      cases found with
      | hit verdict => exact .inl ⟨verdict, some _, rfl⟩
      | wait =>
          cases hrefuses : refusesWait (seconds.map (timing.asks + ·)) timing.waits with
          | true => exact .inr ⟨some entered, rfl, .inl hrefuses⟩
          | false => exact .inl ⟨gaveUp rs seconds, some entered, rfl⟩
      | lead =>
          rcases hattempt with ⟨verdict, hverdict⟩ | ⟨hfails, hrefuses⟩
          · simp only [hverdict]
            exact .inl ⟨verdict, some _, rfl⟩
          · simp only [hfails]
            exact .inr ⟨some _, rfl, .inr hrefuses⟩

/-! ### Deadlines -/

/-- The deadline of a validation is out of reach: it is a whole number that is too large for a
floating-point value, or some rule would have to be waited for longer than is possible. -/
inductive OutOfReach (v : Validator O) (message : String) (deadline : Option Deadline)
    (timing : Timing) : Prop where
  | tooLarge {n : Int} (hdeadline : deadline.or v.deadline = some (.wholeSeconds n))
      (hlarge : (Float.ofInt n).isInf = true) : OutOfReach v message deadline timing
  | tooFar {c : Commit} {s now : Float} {done : List Nat}
      (hseconds : v.allowance deadline = .ok (some s)) (hignored : v.rules.ignoredBy message = none)
      (hparse : Commit.parse message = .ok c)
      (hcourse : timing.course (some s) = .atOnce (some now) done)
      (hwait : longestWait < timing.start + s - now) : OutOfReach v message deadline timing

/-- A deadline is a number of seconds unless it is too large. -/
theorem allowance_cases (v : Validator O) (deadline : Option Deadline) :
  (∃ seconds, v.allowance deadline = .ok seconds)
    ∨ v.allowance deadline = .error .overflow
      ∧ ∃ n, deadline.or v.deadline = some (.wholeSeconds n) ∧ (Float.ofInt n).isInf = true
  := by
  unfold allowance
  cases deadline.or v.deadline with
  | none => exact .inl ⟨_, rfl⟩
  | some d =>
      cases d with
      | seconds x => exact .inl ⟨_, rfl⟩
      | span n => exact .inl ⟨_, rfl⟩
      | wholeSeconds n =>
          cases hlarge : (Float.ofInt n).isInf with
          | false =>
              apply Or.inl
              use some (Float.ofInt n)
              simp [Deadline.toSeconds, hlarge, Except.map]
          | true =>
              apply Or.inr
              constructor
              · simp [Deadline.toSeconds, hlarge, Except.map]
              · use n

theorem outOfReach_iff_refuses {v : Validator O} {deadline : Option Deadline}
    {seconds : Option Float} (hseconds : v.allowance deadline = .ok seconds) {message : String}
    {timing : Timing} :
  v.OutOfReach message deadline timing ↔
    v.rules.refuses message seconds timing.start (timing.course seconds) = true
  := by
  rw [RuleSet.refuses_iff]
  constructor
  · rintro (⟨hdeadline, hlarge⟩ | ⟨hs, hignored, hparse, hcourse, hwait⟩)
    · rw [allowance, hdeadline] at hseconds
      simp [Deadline.toSeconds, hlarge, Except.map] at hseconds
    · obtain rfl := Except.ok.inj (hseconds.symm.trans hs)
      exact ⟨hignored, ⟨_, hparse⟩, _, _, _, hcourse, rfl, hwait⟩
  · rintro ⟨hignored, ⟨c, hparse⟩, now, done, s, hcourse, rfl, hwait⟩
    exact .tooFar hseconds hignored hparse hcourse hwait

section Memoless

variable {v : Validator O} (hmemo : v.memo = none) {deadline : Option Deadline} {message : String}
  {timing : Timing}
include hmemo

theorem validate_of_outOfReach (h : v.OutOfReach message deadline timing) :
  v.validate message deadline timing = (.error .overflow, [], v)
  := by
  rcases v.allowance_cases deadline with ⟨seconds, hseconds⟩ | ⟨hlarge, -⟩
  · rw [outOfReach_iff_refuses hseconds] at h
    have hanswer : answer v.rules message seconds timing v.memo = (.error .overflow, none) := by
      rw [hmemo, answer, RuleSet.attempt, if_pos h]
    rw [validate_of_answer_error hseconds hanswer, ← hmemo]
  · rw [validate, hlarge]

theorem validate_of_not_outOfReach (h : ¬v.OutOfReach message deadline timing)
    {seconds : Option Float} (hseconds : v.allowance deadline = .ok seconds) :
  v.validate message deadline timing
    = (.ok (v.rules.validate message seconds timing.start (timing.course seconds)),
      v.notices message (v.rules.validate message seconds timing.start (timing.course seconds)), v)
  := by
  rw [outOfReach_iff_refuses hseconds] at h
  have hanswer : answer v.rules message seconds timing v.memo
      = (.ok (v.rules.validate message seconds timing.start (timing.course seconds)), none) := by
    rw [hmemo, answer, RuleSet.attempt, if_neg h]
  rw [validate_of_answer hseconds hanswer, ← hmemo]

end Memoless

/-- A validation whose deadline is out of reach fails; with one worker only a whole number that is
too large is out of reach.  Within any other deadline a validation gives the verdict without one,
or the verdict says that time ran out: it lists the violations of the completed rules, which with
one worker are the first ones, and then the time-out.  That cannot happen to a message that an
ignore pattern matches or that cannot be read. -/
theorem validate_within_deadline [ReadingLimits] {v : Validator O} {cfg : Config}
    (hrules : RuleSet.ofConfig cfg = .ok v.rules) (hmemo : v.memo = none)
    (deadline : Option Deadline) {timing : Timing} (htiming : v.Fits timing) (message : String) :
  (v.OutOfReach message deadline timing →
    v.validate message deadline timing = (.error .overflow, [], v)
      ∧ (v.workers = 1 → ∃ n, deadline.or v.deadline = some (.wholeSeconds n)))
    ∧ (¬v.OutOfReach message deadline timing →
      ∃ seconds verdict, v.allowance deadline = .ok seconds
        ∧ v.validate message deadline timing = (.ok verdict, v.notices message verdict, v)
        ∧ (verdict = v.rules.verdict message
          ∨ ∃ c, Commit.parse message = .ok c
            ∧ v.rules.CutShort c message seconds (v.completedRules seconds timing) verdict
            ∧ (v.completedRules seconds timing).Sublist v.rules.orderedRules
            ∧ (v.workers = 1 → v.completedRules seconds timing <+: v.rules.orderedRules))
        ∧ ((v.rules.ignoredBy message).isSome ∨ (∃ e, Commit.parse message = .error e) →
          verdict.timedOut = false))
  := by
  obtain ⟨_, _, hread⟩ := RuleSet.exists_readFrom hrules
  have hinTurn : v.workers = 1 →
      ∀ seconds waits done, timing.course seconds ≠ .atOnce waits done := by
    intro hworkers seconds waits done hcourse
    have hfits := htiming seconds
    rw [hcourse, hworkers] at hfits
    cases hfits.1
  constructor
  · intro hreach
    use validate_of_outOfReach hmemo hreach
    intro hworkers
    cases hreach with
    | @tooLarge n hdeadline => use n
    | tooFar _ _ _ hcourse => cases hinTurn hworkers _ _ _ hcourse
  · intro hreach
    obtain ⟨seconds, hseconds⟩ : ∃ seconds, v.allowance deadline = .ok seconds := by
      rcases v.allowance_cases deadline with hseconds | ⟨-, n, hn, hlarge⟩
      · apply hseconds
      · cases hreach (.tooLarge hn hlarge)
    have hcases := RuleSet.validate_eq_or_cutShort hread.inOrder (htiming seconds) message
      timing.start
    use seconds, v.rules.validate message seconds timing.start (timing.course seconds), hseconds,
      validate_of_not_outOfReach hmemo hreach hseconds
    constructor
    · apply hcases.imp_right
      rintro ⟨c, -, hparse, hcut⟩
      use c, hparse, hcut
      constructor
      · apply List.filter_sublist
      · intro hworkers
        rw [completedRules]
        cases hcourse : timing.course seconds with
        | inTurn clock => apply RuleSet.completedRules_inTurn_prefix
        | atOnce waits done => cases hinTurn hworkers _ _ _ hcourse
    · intro hunread
      rcases hcases with heq | ⟨c, hignored, hparse, -⟩
      · rw [heq]
        apply RuleSet.timedOut_verdict hread.inOrder
      · rcases hunread with hsome | ⟨e, herror⟩
        · rw [hignored] at hsome
          cases hsome
        · rw [hparse] at herror
          cases herror

/-- The strict validator without its memo. -/
def memoless : Validator Unit := { strictValidator with memo := none }

/-- A timing in which two of its six rules are done when the time is up. -/
def twoDone : Timing :=
  ⟨0, 0, 0, fun seconds =>
    .atOnce (some 0) (if seconds.isSome then [5, 1] else [5, 3, 1, 0, 2, 4])⟩

theorem fits_twoDone :
  memoless.Fits twoDone
  := by
  have htwo : [5, 1].Nodup ∧ ∀ i ∈ [5, 1], i < 6 := by decide
  have hsix : [5, 3, 1, 0, 2, 4].Nodup ∧ ∀ i ∈ [5, 3, 1, 0, 2, 4], i < 6 := by decide
  rintro (_ | seconds)
  · refine ⟨by decide, hsix.1, hsix.2, fun _ => by decide⟩
  · refine ⟨by decide, htwo.1, htwo.2, ?_⟩
    rintro (⟨⟨⟩⟩ | ⟨⟨⟩⟩)

/-- Within no time only two rules are completed, and a deadline in some three hundred years is out
of reach. -/
theorem validate_within_deadline_strict :
  RuleSet.ofConfig strictConfig = .ok memoless.rules ∧ memoless.memo = none
    ∧ memoless.Fits twoDone
    ∧ (∃ verdict told v,
      memoless.validate "b(t): xxxx" (some (.seconds 0)) twoDone = (.ok verdict, told, v)
        ∧ verdict.timedOut = true ∧ verdict.ruleNames = ["scope", "q", "timeout"])
    ∧ memoless.validate "b(t): xxxx" (some (.seconds 10000000000)) twoDone
      = (.error .overflow, [], memoless)
  := by
  have hrules : RuleSet.ofConfig strictConfig = .ok memoless.rules := rfl
  have hread : Commit.parse "b(t): xxxx"
      = .ok ⟨"b", some "t", false, false, "xxxx", none, [], [], []⟩ := by decide
  have hwithin := fun deadline =>
    validate_within_deadline hrules rfl deadline fits_twoDone "b(t): xxxx"
  refine ⟨hrules, rfl, fits_twoDone, ?_, ?_⟩
  · have hreach : ¬memoless.OutOfReach "b(t): xxxx" (some (.seconds 0)) twoDone := by
      rintro (⟨⟨⟩⟩ | ⟨⟨⟩, -, -, ⟨⟩, hwait⟩)
      revert hwait
      decide
    obtain ⟨seconds, verdict, hseconds, hvalidate, hcases, -⟩ := (hwithin _).2 hreach
    obtain rfl : some 0 = seconds := Except.ok.inj hseconds
    refine ⟨verdict, _, _, hvalidate, ?_⟩
    rcases hcases with heq | ⟨c, hparse, hcut, -⟩
    · have hverdict : memoless.rules.validate "b(t): xxxx" (some 0) twoDone.start
          (twoDone.course (some 0)) = verdict :=
        Except.ok.inj (congrArg Prod.fst
          ((validate_of_not_outOfReach rfl hreach hseconds).symm.trans hvalidate))
      have hlate : (memoless.rules.validate "b(t): xxxx" (some 0) twoDone.start
          (twoDone.course (some 0))).timedOut = true := by decide
      obtain ⟨_, _, hreadFrom⟩ := RuleSet.exists_readFrom hrules
      have hunhurried := RuleSet.timedOut_verdict hreadFrom.inOrder "b(t): xxxx"
      rw [← heq, ← hverdict, hlate] at hunhurried
      cases hunhurried
    · obtain rfl := Except.ok.inj (hread.symm.trans hparse)
      use hcut.timedOut
      rw [Verdict.ruleNames, hcut.violations]
      rfl
  · apply ((hwithin _).1 _).1
    exact .tooFar rfl rfl hread rfl (by decide)

end CommitPolicy.Validator
