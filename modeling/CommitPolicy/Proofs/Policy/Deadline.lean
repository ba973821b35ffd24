import CommitPolicy.Proofs.Policy.Evaluate

/-!
# Validations within a deadline

`Course.Fits` says which courses the rules of a policy can take, and `RuleSet.verdict` is the
verdict without a deadline.  It is shown that a validation within a deadline, whatever the readings
of the clock and whichever rules are done when waiting ends,

* fails if the rules would have to be waited for longer than is possible; without a deadline it does
  not fail;
* otherwise gives that verdict, or
* is cut short: it lists the violations of the completed rules, which are some of those without the
  deadline and in the same order, and then says that time ran out.
-/

namespace CommitPolicy

/-! ### Courses -/

namespace Course

/-- The courses that rules can take.  One worker takes them in turn.  More take all of them at
once; then each rule is done at most once when waiting ends.  All are done if there was nothing to
wait for, and without a deadline waiting ends when all are done. -/
def Fits (workers : Int) (seconds : Option Float) (total : Nat) : Course → Prop
  | inTurn _ => workers ≤ 1
  | atOnce waits done => 1 < workers ∧ done.Nodup ∧ (∀ i ∈ done, i < total)
      ∧ (seconds = none ∨ waits = none → total ≤ done.length)

/-- Rules that are taken in turn are completed up to a number. -/
theorem exists_completed_inTurn (clock : Nat → Float) (expires : Option Float) (total : Nat) :
  ∃ k ≤ total, (inTurn clock).completed expires total = List.range k
  := by
  have hprefix := List.takeWhile_prefix (l := List.range total)
    fun i => !expired expires (clock i)
  rw [List.prefix_iff_eq_take, List.take_range] at hprefix
  use min ((inTurn clock).completed expires total).length total
  constructor
  · apply Nat.min_le_right
  · apply hprefix

section Fits

variable {course : Course} {workers : Int} {seconds : Option Float} {total : Nat}
  (h : course.Fits workers seconds total) (expires : Option Float)
include h

theorem Fits.nodup_completed :
  (course.completed expires total).Nodup
  := by
  cases course with
  | inTurn clock =>
      obtain ⟨k, -, hk⟩ := exists_completed_inTurn clock expires total
      rw [hk]
      apply List.nodup_range
  | atOnce waits done => apply h.2.1

theorem Fits.lt_of_mem_completed :
  ∀ i ∈ course.completed expires total, i < total
  := by
  cases course with
  | inTurn clock =>
      obtain ⟨k, hk, heq⟩ := exists_completed_inTurn clock expires total
      intro i hi
      rw [heq] at hi
      apply Nat.lt_of_lt_of_le (List.mem_range.mp hi) hk
  | atOnce waits done => apply h.2.2.1

end Fits

theorem finishes_inTurn (clock : Nat → Float) (total : Nat) :
  (inTurn clock).Finishes total
  := trivial

/-- Without a deadline every rule is done. -/
theorem Fits.finishes {course : Course} {workers : Int} {total : Nat}
    (h : course.Fits workers none total) :
  course.Finishes total
  := by
  cases course with
  | inTurn clock => trivial
  | atOnce waits done =>
      obtain ⟨-, hnodup, hlt, hlength⟩ := h
      apply (hnodup.subperm _).perm_of_length_le
      · rw [List.length_range]
        apply hlength (.inl rfl)
      · intro i hi
        apply List.mem_range.mpr (hlt i hi)

end Course

namespace RuleSet

/-! ### Refusals -/

/-- Waiting for the rules is refused if there is a rule to wait for, and if the deadline is further
away than can be waited for. -/
theorem refuses_iff {rs : RuleSet} {message : String} {seconds : Option Float} {start : Float}
    {course : Course} :
  rs.refuses message seconds start course = true ↔
    rs.ignoredBy message = none ∧ (∃ c, Commit.parse message = .ok c)
      ∧ ∃ now done s, course = .atOnce (some now) done ∧ seconds = some s
        ∧ longestWait < start + s - now
  := by
  have hread : (Commit.parse message).toBool = true ↔ ∃ c, Commit.parse message = .ok c := by
    cases Commit.parse message with
    | error e => simp [Except.toBool]
    | ok c => simp [Except.toBool]
  rw [refuses, Bool.and_eq_true, Bool.and_eq_true, Option.isNone_iff_eq_none, hread, and_assoc]
  refine and_congr_right fun _ => and_congr_right fun _ => ?_
  cases course with
  | inTurn clock => simp [Course.refused]
  | atOnce waits done =>
      cases waits with
      | none => simp [Course.refused]
      | some now =>
          cases seconds with
          | none => simp [Course.refused, refusesWait]
          | some s => simp [Course.refused, refusesWait]

/-- Without a deadline no waiting is refused. -/
theorem attempt_none (rs : RuleSet) (message : String) (start : Float) (course : Course) :
  rs.attempt message none start course = .ok (rs.validate message none start course)
  := by
  have hrefuses : ¬rs.refuses message none start course = true := by
    rw [refuses_iff]
    rintro ⟨-, -, _, _, _, -, ⟨⟩, -⟩
  rw [attempt, if_neg hrefuses]

/-- A validation fails only if waiting is refused. -/
theorem attempt_cases (rs : RuleSet) (message : String) (seconds : Option Float) (start : Float)
    (course : Course) :
  (∃ verdict, rs.attempt message seconds start course = .ok verdict)
    ∨ rs.attempt message seconds start course = .error .overflow
      ∧ rs.refuses message seconds start course = true
  := by
  rw [attempt]
  cases rs.refuses message seconds start course with
  | true => exact .inr ⟨rfl, rfl⟩
  | false => exact .inl ⟨_, rfl⟩

/-- The verdict of a validation that does not fail. -/
theorem attempt_eq_ok_iff {rs : RuleSet} {message : String} {seconds : Option Float} {start : Float}
    {course : Course} {verdict : Verdict} :
  rs.attempt message seconds start course = .ok verdict ↔
    rs.refuses message seconds start course = false
      ∧ rs.validate message seconds start course = verdict
  := by
  rw [attempt]
  cases rs.refuses message seconds start course with
  | true => simp
  | false => simp

/-! ### Verdicts -/

/-- The verdict on a message without a deadline, the rules being evaluated one after the other. -/
def verdict (rs : RuleSet) (message : String) : Verdict :=
  rs.validate message none 0 (.inTurn fun _ => 0)

section InOrder

variable {rs : RuleSet} (hrules : InOrder rs.rules)
include hrules

/-- Without a deadline it does not matter in which order rules are done, nor when. -/
theorem attempt_of_fits {course : Course} {workers : Int}
    (h : course.Fits workers none rs.rules.length) (message : String) (start : Float) :
  rs.attempt message none start course = .ok (rs.verdict message)
  := by
  rw [attempt_none, verdict, validate_of_finishes hrules h.finishes,
    validate_of_finishes hrules (Course.finishes_inTurn _ _)]

theorem verdict_of_parse {message : String} {c : Commit} (hignored : rs.ignoredBy message = none)
    (hparse : Commit.parse message = .ok c) :
  rs.verdict message = .failed (rs.rules.filterMap fun r => r.check c message)
  := by
  rw [verdict, validate_of_finishes hrules (Course.finishes_inTurn _ _), hignored, hparse]
  rfl

theorem timedOut_verdict (message : String) :
  (rs.verdict message).timedOut = false
  := by
  rw [verdict, validate_of_finishes hrules (Course.finishes_inTurn _ _)]
  split
  · rfl
  · cases Commit.parse message with
    | error e => rfl
    | ok c => rfl

end InOrder

/-- The rules that are completed in a course within `seconds` from `start`, in reporting order. -/
def completedRules (rs : RuleSet) (seconds : Option Float) (start : Float) (course : Course) :
    List ((Nat × Nat) × Rule) :=
  rs.numbered (course.completed (seconds.map (start + ·)) rs.rules.length)

theorem completedRules_inTurn_prefix (rs : RuleSet) (seconds : Option Float) (start : Float)
    (clock : Nat → Float) :
  rs.completedRules seconds start (.inTurn clock) <+: rs.orderedRules
  := by
  obtain ⟨k, -, hk⟩ := Course.exists_completed_inTurn clock (seconds.map (start + ·))
    rs.rules.length
  rw [completedRules, hk, numbered_range]
  apply List.take_prefix

/-- The verdict on a commit for which time ran out when only some rules were completed. -/
structure CutShort (rs : RuleSet) (c : Commit) (message : String) (seconds : Option Float)
    (completed : List ((Nat × Nat) × Rule)) (verdict : Verdict) : Prop where
  timedOut : verdict.timedOut = true
  invalid : verdict.valid = false
  incomplete : completed.length < rs.rules.length
  violations : verdict.violations = (completed.filterMap fun x => x.2.check c message)
    ++ [timeoutViolation seconds completed.length rs.rules.length]
  sublist : (completed.filterMap fun x => x.2.check c message).Sublist
    (rs.verdict message).violations

/-- A commit whose validation is not cut short gets the verdict that it gets without a deadline. -/
theorem judge_eq_or_cutShort {rs : RuleSet} (hrules : InOrder rs.rules) {message : String}
    {c : Commit} (hignored : rs.ignoredBy message = none) (hparse : Commit.parse message = .ok c)
    {done : List Nat} (hnodup : done.Nodup) (hdone : ∀ i ∈ done, i < rs.rules.length)
    (seconds : Option Float) :
  rs.judge c message seconds done = rs.verdict message
    ∨ rs.CutShort c message seconds (rs.numbered done) (rs.judge c message seconds done)
  := by
  have hverdict := verdict_of_parse hrules hignored hparse
  by_cases hlength : done.length < rs.rules.length
  · apply Or.inr
    rw [judge_of_length_lt hnodup hdone hrules hlength, ← length_numbered hnodup hdone]
    constructor
    · rfl
    · simp [Verdict.valid, Verdict.inconclusive]
    · rwa [length_numbered hnodup hdone]
    · rfl
    · rw [hverdict]
      apply violationsOf_sublist
  · apply Or.inl
    rw [judge_of_length_le hnodup hdone hrules (by omega), hverdict]

/-- A validation within a deadline gives the verdict without one or is cut short, and only a message
that can be read and that no ignore pattern matches can be cut short. -/
theorem validate_eq_or_cutShort {rs : RuleSet} (hrules : InOrder rs.rules) {workers : Int}
    {seconds : Option Float} {course : Course}
    (hcourse : course.Fits workers seconds rs.rules.length) (message : String) (start : Float) :
  rs.validate message seconds start course = rs.verdict message
    ∨ ∃ c, rs.ignoredBy message = none ∧ Commit.parse message = .ok c
      ∧ rs.CutShort c message seconds (rs.completedRules seconds start course)
        (rs.validate message seconds start course)
  := by
  cases hignored : rs.ignoredBy message with
  | some p =>
      apply Or.inl
      simp [verdict, validate, hignored]
  | none =>
      cases hparse : Commit.parse message with
      | error e =>
          apply Or.inl
          simp [verdict, validate, hignored, hparse]
      | ok c =>
          have hvalidate : rs.validate message seconds start course
              = rs.judge c message seconds
                (course.completed (seconds.map (start + ·)) rs.rules.length) := by
            simp [validate, hignored, hparse]
          rw [hvalidate]
          apply (judge_eq_or_cutShort hrules hignored hparse (hcourse.nodup_completed _)
            (hcourse.lt_of_mem_completed _) seconds).imp_right
          intro hcut
          use c, rfl, rfl
          apply hcut

end RuleSet

end CommitPolicy
