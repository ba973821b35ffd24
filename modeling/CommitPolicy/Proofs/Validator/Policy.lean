import CommitPolicy.Proofs.Memo.Entries
import CommitPolicy.Proofs.Policy.Breaches
import CommitPolicy.Proofs.Policy.Deadline
import CommitPolicy.Validator.Basic

/-!
# Validators follow their configuration

`Config.Decides` reads the verdict on a message off the options of a configuration.  It is shown
that a validator whose policy was made of a configuration, and which is given no deadline, gives the
verdict that the configuration decides, however its rules are run.  If it has a memo, validations
store such verdicts only, so it does not matter which messages it was given before.
-/

namespace CommitPolicy

namespace Config

/-- Whether an ignore pattern matches a message. -/
def ignores (cfg : Config) (message : String) : Bool :=
  cfg.ignorePatterns.any fun source => Pattern.finds source message

/-- The verdict that a configuration decides on a message: a message that an ignore pattern matches
is skipped, one that cannot be read breaks the format, and the violations of any other one name the
rules that it breaks. -/
inductive Decides (cfg : Config) (message : String) : Verdict → Prop where
  | ignored (hignored : cfg.ignores message = true) : Decides cfg message .skipped
  | unreadable {e : ParseError} (hignored : cfg.ignores message = false)
      (hparse : Commit.parse message = .error e) :
      Decides cfg message (.failed [⟨"format", e.message⟩])
  | read {c : Commit} {violations : List Violation} (hignored : cfg.ignores message = false)
      (hparse : Commit.parse message = .ok c)
      (hnames : violations.map (·.rule) = cfg.brokenRules c message) :
      Decides cfg message (.failed violations)

/-- The configuration accepts a message: an ignore pattern matches it, or the commit that is read
from it is as every option asks. -/
def Accepts (cfg : Config) (message : String) : Prop :=
  cfg.ignores message = true ∨ ∃ c, Commit.parse message = .ok c ∧ cfg.Admits c message

/-- A configuration decides that a message is valid exactly if it accepts the message. -/
theorem Decides.valid_iff {cfg : Config} {message : String} {verdict : Verdict}
    (h : cfg.Decides message verdict) :
  verdict.valid = true ↔ cfg.Accepts message
  := by
  cases h with
  | ignored hignored => exact ⟨fun _ => .inl hignored, fun _ => rfl⟩
  | unreadable hignored hparse =>
      constructor
      · nofun
      · rintro (h | ⟨c, hc, -⟩)
        · rw [hignored] at h
          cases h
        · rw [hparse] at hc
          cases hc
  | @read c violations hignored hparse hnames =>
      have hadmits : violations = [] ↔ cfg.Admits c message := by
        rw [← brokenRules_eq_nil_iff, ← hnames, List.map_eq_nil_iff]
      rw [Verdict.valid, Verdict.failed, List.isEmpty_iff, hadmits, Accepts, hignored, hparse]
      simp

end Config

/-! ### Policies -/

theorem any_search_eq {sources : List String} {ps : List Pattern}
    (h : List.Forall₂ Pattern.IsReadFrom sources ps) (message : String) :
  (ps.any fun p => p.search message) = sources.any fun source => Pattern.finds source message
  := by
  induction h with
  | nil => rfl
  | cons hp _ ih => rw [List.any_cons, List.any_cons, ih, hp.finds_eq]

/-- A validation without a deadline gives the verdict that the configuration decides. -/
theorem RuleSet.decides_validate [ReadingLimits] {cfg : Config} {rs : RuleSet}
    (h : ofConfig cfg = .ok rs)
    {course : Course} (hcourse : course.Finishes rs.rules.length) (message : String)
    (start : Float) :
  cfg.Decides message (rs.validate message none start course)
  := by
  obtain ⟨p, custom, hread⟩ := exists_readFrom h
  have hignored : (rs.ignoredBy message).isSome = cfg.ignores message := by
    rw [Bool.eq_iff_iff, ignoredBy, List.find?_isSome, Config.ignores,
      ← any_search_eq hread.ignored, List.any_eq_true]
  rw [validate_of_finishes hread.inOrder hcourse, hignored]
  cases hi : cfg.ignores message with
  | true => apply Config.Decides.ignored hi
  | false =>
      rw [if_neg Bool.false_ne_true]
      cases hparse : Commit.parse message with
      | error e => apply Config.Decides.unreadable hi hparse
      | ok c => apply Config.Decides.read hi hparse (hread.ruleNames_eq hparse)

theorem Config.Decides.timedOut_eq {cfg : Config} {message : String} {verdict : Verdict}
    (h : cfg.Decides message verdict) :
  verdict.timedOut = false
  := by
  cases h with
  | ignored => rfl
  | unreadable => rfl
  | read => rfl

/-! ### Validators -/

namespace Validator

variable {O : Type}

/-- Without a deadline of its own a validator lets a validation take its time. -/
theorem allowance_none_of_deadline_eq_none {v : Validator O} (h : v.deadline = none) :
  v.allowance none = .ok none
  := by
  rw [allowance, h]
  rfl

section Answer

variable {v : Validator O} {deadline : Option Deadline} {seconds : Option Float}
  (hseconds : v.allowance deadline = .ok seconds) {message : String} {timing : Timing}
  {memo : Option (Memo Verdict)}
include hseconds

/-- A validation that comes to a verdict returns it and tells the observers of it. -/
theorem validate_of_answer {verdict : Verdict}
    (hanswer : answer v.rules message seconds timing v.memo = (.ok verdict, memo)) :
  v.validate message deadline timing = (.ok verdict, v.notices message verdict, { v with memo })
  := by
  simp [Validator.validate, hseconds, validateWithin, hanswer, Except.toOption]

/-- A validation that fails tells nobody. -/
theorem validate_of_answer_error {e : Failure}
    (hanswer : answer v.rules message seconds timing v.memo = (.error e, memo)) :
  v.validate message deadline timing = (.error e, [], { v with memo })
  := by
  simp [Validator.validate, hseconds, validateWithin, hanswer, Except.toOption]

end Answer

/-- A validation that returns a verdict comes to it within the time that it may take, tells the
observers of it, and changes nothing but the memo. -/
theorem exists_answer_of_validate {v : Validator O} {message : String} {deadline : Option Deadline}
    {timing : Timing} {verdict : Verdict} {told : List (Notice O)} {w : Validator O}
    (h : v.validate message deadline timing = (.ok verdict, told, w)) :
  ∃ seconds memo, v.allowance deadline = .ok seconds
    ∧ answer v.rules message seconds timing v.memo = (.ok verdict, memo)
    ∧ told = v.notices message verdict ∧ w = { v with memo }
  := by
  cases hseconds : v.allowance deadline with
  | error e =>
      simp only [validate, hseconds] at h
      cases h
  | ok seconds =>
      rcases hanswer : answer v.rules message seconds timing v.memo with ⟨_ | result, memo⟩
      · simp only [validate, hseconds, validateWithin, hanswer] at h
        cases h
      · rw [validate_of_answer hseconds hanswer] at h
        cases h
        exact ⟨seconds, memo, rfl, hanswer, rfl, rfl⟩

/-- The policy of the validator was made of the configuration, there is no deadline, and every
verdict that is stored is the one that the configuration decides. -/
structure Follows [ReadingLimits] (v : Validator O) (cfg : Config) : Prop where
  rules : RuleSet.ofConfig cfg = .ok v.rules
  deadline : v.deadline = none
  memo : ∀ memo ∈ v.memo, memo.Holds cfg.Decides

/-- The messages on which callers are computing verdicts. -/
def inFlight (v : Validator O) : List String := (v.memo.map (·.inFlight)).getD []

section Follows

variable [ReadingLimits] {v : Validator O} {cfg : Config} (hv : v.Follows cfg) {message : String}
  (hidle : message ∉ v.inFlight) {timing : Timing}
  (hcourse : (timing.course none).Finishes v.rules.rules.length)
include hv hidle hcourse

theorem Follows.exists_answer :
  ∃ verdict memo, answer v.rules message none timing v.memo = (.ok verdict, memo)
    ∧ cfg.Decides message verdict ∧ (∀ m ∈ memo, m.Holds cfg.Decides)
    ∧ memo.map (·.inFlight) = v.memo.map (·.inFlight)
  := by
  have hattempt := RuleSet.attempt_none v.rules message timing.start (timing.course none)
  have hdecides := RuleSet.decides_validate hv.rules hcourse message timing.start
  cases hmemo : v.memo with
  | none =>
      refine ⟨_, none, ?_, hdecides, nofun, rfl⟩
      rw [answer, hattempt]
  | some memo =>
      have hholds := hv.memo memo hmemo
      have hkey : message ∉ memo.inFlight := by simpa [inFlight, hmemo] using hidle
      cases hget : memo.get? message with
      | some verdict =>
          have hverdict := hholds.of_get? hget
          rw [answer, Memo.enter_of_get?_eq_some hget]
          refine ⟨verdict, _, rfl, hverdict, ?_, rfl⟩
          rintro _ ⟨⟩
          apply hholds.mem_touch hverdict
      | none =>
          rw [answer, Memo.enter_of_get?_eq_none hget hkey, hattempt]
          refine ⟨_, _, rfl, hdecides, ?_, ?_⟩
          · rintro _ ⟨⟩
            rw [conclude, hdecides.timedOut_eq]
            apply Memo.Holds.settle _ hdecides
            apply hholds
          · simp [conclude, hdecides.timedOut_eq, Memo.settle, Memo.release]

end Follows

/-- A validator that follows a configuration gives the verdict that the configuration decides if no
other caller is at work on the message, and follows the configuration afterwards. -/
theorem Follows.validate [ReadingLimits] {v : Validator O} {cfg : Config} (hv : v.Follows cfg)
    {message : String} (hidle : message ∉ v.inFlight) {timing : Timing}
    (hcourse : (timing.course none).Finishes v.rules.rules.length) :
  ∃ verdict told v', v.validate message none timing = (.ok verdict, told, v')
    ∧ cfg.Decides message verdict ∧ v'.Follows cfg ∧ v'.inFlight = v.inFlight
    ∧ v'.rules = v.rules
  := by
  obtain ⟨verdict, memo, hanswer, hdecides, hholds, hflight⟩ := hv.exists_answer hidle hcourse
  have hallowance := allowance_none_of_deadline_eq_none hv.deadline
  use verdict, v.notices message verdict, { v with memo }, validate_of_answer hallowance hanswer,
    hdecides
  refine ⟨?_, ?_, rfl⟩
  · constructor
    · apply hv.rules
    · apply hv.deadline
    · apply hholds
  · rw [inFlight, inFlight, hflight]

/-- Of messages one after the other it gives the verdicts that the configuration decides. -/
theorem Follows.validateAll [ReadingLimits] {v : Validator O} {cfg : Config} (hv : v.Follows cfg)
    (hidle : v.inFlight = []) {timing : Timing}
    (hcourse : (timing.course none).Finishes v.rules.rules.length) (messages : List String) :
  ∃ verdicts told v', v.validateAll timing messages = (.ok verdicts, told, v')
    ∧ List.Forall₂ cfg.Decides messages verdicts ∧ v'.Follows cfg ∧ v'.inFlight = []
    ∧ v'.rules = v.rules
  := by
  induction messages generalizing v with
  | nil => use [], [], v, rfl, List.Forall₂.nil, hv, hidle
  | cons message rest ih =>
      obtain ⟨verdict, told, w, hvalidate, hdecides, hw, hflight, hrules⟩ :=
        hv.validate (by simp [hidle]) hcourse
      obtain ⟨verdicts, toldRest, v', hrest, hall, hv', hidle', hrules'⟩ :=
        ih hw (hflight.trans hidle) (hrules ▸ hcourse)
      use verdict :: verdicts, told ++ toldRest, v'
      refine ⟨?_, List.Forall₂.cons hdecides hall, hv', hidle', hrules'.trans hrules⟩
      simp only [Validator.validateAll, hvalidate, hrest]
      rfl

/-- A validator that was made of a configuration without a deadline, with any number of workers and
any observers, and has not been given a message: nothing is stored in its memo, if it has one. -/
structure IsNew [ReadingLimits] (v : Validator O) (cfg : Config) : Prop where
  rules : RuleSet.ofConfig cfg = .ok v.rules
  deadline : v.deadline = none
  memo : ∀ memo ∈ v.memo, ∃ maxSize, Memo.make? maxSize = .ok memo

theorem IsNew.follows [ReadingLimits] {v : Validator O} {cfg : Config} (h : v.IsNew cfg) :
  v.Follows cfg ∧ v.inFlight = []
  := by
  have hempty : ∀ memo ∈ v.memo, memo.entries = [] ∧ memo.inFlight = [] := by
    intro memo hmemo
    obtain ⟨maxSize, hmake⟩ := h.memo memo hmemo
    apply Memo.of_make? hmake
  constructor
  · constructor
    · apply h.rules
    · apply h.deadline
    · intro memo hmemo e he
      rw [(hempty memo hmemo).1] at he
      cases he
  · cases hmemo : v.memo with
    | none => simp [inFlight, hmemo]
    | some memo => simp [inFlight, hmemo, (hempty memo hmemo).2]

/-- Whatever messages a new validator was given before, the verdict on a message is the one that the
configuration decides. -/
theorem validate_decides [ReadingLimits] {v : Validator O} {cfg : Config} (hv : v.IsNew cfg)
    {before timing : Timing} (hbefore : (before.course none).Finishes v.rules.rules.length)
    (hcourse : (timing.course none).Finishes v.rules.rules.length) (earlier : List String)
    (message : String) :
  ∃ verdicts told w, v.validateAll before earlier = (.ok verdicts, told, w)
    ∧ List.Forall₂ cfg.Decides earlier verdicts
    ∧ ∃ verdict told' w', w.validate message none timing = (.ok verdict, told', w')
      ∧ cfg.Decides message verdict
  := by
  obtain ⟨hfollows, hidle⟩ := hv.follows
  obtain ⟨verdicts, told, w, hall, hdecides, hw, hidle', hrules⟩ :=
    hfollows.validateAll hidle hbefore earlier
  obtain ⟨verdict, told', w', hvalidate, hverdict, -⟩ :=
    hw.validate (by simp [hidle']) (hrules ▸ hcourse)
  use verdicts, told, w, hall, hdecides, verdict, told', w'

/-- A configuration whose rules are broken below. -/
def strictConfig : Config :=
  { Config.default with
    types := [" a ", "a", ""]
    scopes := ["s"]
    maxSubjectLength := 3
    requireTicketRef := true
    customRules := [⟨"q", "q", ""⟩] }

/-- A validator with the policy of that configuration and an empty memo. -/
def strictValidator : Validator Unit where
  rules := {
    types := ["a"]
    scopes := ["s"]
    scopeRequired := false
    maxSubjectLength := 3
    allowBreakingChanges := true
    requireJiraTicket := false
    requireTicketRef := true
    jiraTicketPattern := none
    jiraProjects := []
    ignorePatterns := []
    rules := [.type ["a"], .scope ["s"], .subjectLength 3, .footerFormat, .ticketRef,
      .custom "q" ⟨"q", .char ⟨false, [.one 113], .exact, false⟩⟩ ""]
  }
  workers := 4
  memo := some (.empty none)
  deadline := none
  observers := []

/-- A course in which the six rules of that policy are done at once and end out of order. -/
def outOfOrder : Timing := ⟨0, 0, 0, fun _ => .atOnce (some 0) [5, 3, 1, 0, 2, 4]⟩

/-- The second time the verdict is found in the memo. -/
theorem validate_decides_strict :
  strictValidator.IsNew strictConfig
    ∧ (outOfOrder.course none).Finishes strictValidator.rules.rules.length
    ∧ ∃ verdicts told w verdict told' w',
      strictValidator.validateAll outOfOrder ["b(t): xxxx"] = (.ok verdicts, told, w)
      ∧ w.validate "b(t): xxxx" none outOfOrder = (.ok verdict, told', w')
      ∧ verdict.ruleNames = ["type", "scope", "subject-length", "ticket-ref", "q"]
  := by
  have hnew : strictValidator.IsNew strictConfig := by
    constructor
    · rfl
    · rfl
    · rintro _ ⟨⟩
      use none
      rfl
  have hcourse : (outOfOrder.course none).Finishes strictValidator.rules.rules.length := by
    have hperm : [5, 3, 1, 0, 2, 4].Perm (List.range 6) := by decide
    apply hperm
  obtain ⟨verdicts, told, w, hall, -, verdict, told', w', hvalidate, hdecides⟩ :=
    validate_decides hnew hcourse hcourse ["b(t): xxxx"] "b(t): xxxx"
  refine ⟨hnew, hcourse, verdicts, told, w, verdict, told', w', hall, hvalidate, ?_⟩
  have hread : Commit.parse "b(t): xxxx"
      = .ok ⟨"b", some "t", false, false, "xxxx", none, [], [], []⟩ := by decide
  cases hdecides with
  | ignored hignored => cases hignored
  | unreadable _ hparse =>
      rw [hread] at hparse
      cases hparse
  | read _ hparse hnames =>
      obtain rfl := Except.ok.inj (hread.symm.trans hparse)
      rw [Verdict.ruleNames, Verdict.failed, hnames]
      rfl

end Validator

end CommitPolicy
