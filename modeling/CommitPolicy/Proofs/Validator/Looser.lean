import CommitPolicy.Proofs.Policy.Looser
import CommitPolicy.Proofs.Validator.Breaking

/-!
# Validators with looser configurations

A message that a validator finds valid is found valid by every validator whose configuration is a
looser one, whatever the memos hold and however the rules are run, unless the time of the second one
runs out.
-/

namespace CommitPolicy

/-! ### What the configurations accept -/

theorem Config.LoosenedTo.ignores {cfg cfg' : Config} (h : cfg.LoosenedTo cfg') {message : String}
    (hignored : cfg.ignores message = true) :
  cfg'.ignores message = true
  := by
  obtain ⟨source, hsource, hfinds⟩ := List.any_eq_true.mp hignored
  apply List.any_eq_true.mpr ⟨source, h.ignorePatterns hsource, hfinds⟩

/-- A message that is accepted is accepted by a looser configuration. -/
theorem Config.LoosenedTo.accepts {cfg cfg' : Config} (h : cfg.LoosenedTo cfg') {message : String}
    (haccepts : cfg.Accepts message) :
  cfg'.Accepts message
  := by
  rcases haccepts with hignored | ⟨c, hparse, hc⟩
  · apply Or.inl (h.ignores hignored)
  · apply Or.inr ⟨c, hparse, h.admits hparse hc⟩

namespace Validator

variable {O O' : Type}

/-! ### A message that the configuration accepts -/

section Accepts

variable [ReadingLimits] {v : Validator O} {cfg : Config} (hv : v.IsInUse cfg) {message : String}
include hv

theorem IsInUse.decides_verdict (message : String) :
  cfg.Decides message (v.rules.verdict message)
  := RuleSet.decides_validate hv.rules (Course.finishes_inTurn _ _) message _

/-- A validator that is in use and is given no deadline follows its configuration. -/
theorem IsInUse.follows (hdeadline : v.deadline = none) :
  v.Follows cfg
  := by
  constructor
  · apply hv.rules
  · apply hdeadline
  · intro memo hmemo e he
    rw [hv.holds memo hmemo e he]
    apply hv.decides_verdict

/-- The message is found valid unless time runs out. -/
theorem IsInUse.valid_or_late (haccepts : cfg.Accepts message) {timing : Timing}
    (hfits : v.Fits timing) {deadline : Option Deadline} {verdict : Verdict}
    {told : List (Notice O)} {v' : Validator O}
    (hvalidate : v.validate message deadline timing = (.ok verdict, told, v')) :
  verdict.valid = true ∨ verdict.timedOut = true
  := by
  rcases hv.eq_or_late hfits hvalidate with rfl | ⟨hlate, -⟩
  · apply Or.inl ((hv.decides_verdict message).valid_iff.mpr haccepts)
  · apply Or.inr hlate

/-- Without a deadline, and while no other caller is at work on it, the message is found valid. -/
theorem IsInUse.exists_validate_valid (haccepts : cfg.Accepts message) {timing : Timing}
    (hfits : v.Fits timing) (hdeadline : v.deadline = none) (hidle : message ∉ v.inFlight) :
  ∃ verdict told v', v.validate message none timing = (.ok verdict, told, v')
    ∧ verdict.valid = true
  := by
  obtain ⟨verdict, told, v', hvalidate, hdecides, -⟩ :=
    (hv.follows hdeadline).validate hidle (hfits none).finishes
  use verdict, told, v', hvalidate, hdecides.valid_iff.mpr haccepts

end Accepts

/-- A message that a validator found valid is valid under a looser configuration, too: a validator
with that configuration finds it valid unless time runs out, and does so if it has no deadline and
no other caller is at work on the message. -/
theorem valid_when_loosened [ReadingLimits] {v : Validator O} {cfg cfg' : Config}
    (hv : v.IsInUse cfg)
    (h : cfg.LoosenedTo cfg') {timing : Timing} (hfits : v.Fits timing) {message : String}
    {deadline : Option Deadline} {verdict : Verdict} {told : List (Notice O)} {v' : Validator O}
    (hvalidate : v.validate message deadline timing = (.ok verdict, told, v'))
    (hvalid : verdict.valid = true) {w : Validator O'} (hw : w.IsInUse cfg') {timing' : Timing}
    (hfits' : w.Fits timing') :
  (w.rules.verdict message).valid = true
    ∧ (∀ deadline' verdict' told' w',
      w.validate message deadline' timing' = (.ok verdict', told', w') →
        verdict'.valid = true ∨ verdict'.timedOut = true)
    ∧ (w.deadline = none → message ∉ w.inFlight →
      ∃ verdict' told' w', w.validate message none timing' = (.ok verdict', told', w')
        ∧ verdict'.valid = true)
  := by
  have hdecides := hv.decides_of_valid hfits hvalidate hvalid
  have haccepts : cfg'.Accepts message := h.accepts (hdecides.valid_iff.mp hvalid)
  refine ⟨?_, ?_, ?_⟩
  · apply (hw.decides_verdict message).valid_iff.mpr haccepts
  · intro deadline' verdict' told' w' hvalidate'
    apply hw.valid_or_late haccepts hfits' hvalidate'
  · apply hw.exists_validate_valid haccepts hfits'

/-- A configuration in which every option asks for something. -/
def tightConfig : Config :=
  { Config.default with
    types := [" fix "]
    scopes := ["api"]
    scopeRequired := true
    maxSubjectLength := 20
    allowBreakingChanges := false
    requireJiraTicket := true
    requireTicketRef := true
    jiraProjects := ["ABC"]
    customRules := [⟨"q", "q", ""⟩] }

/-- A looser one: any scope is allowed, since the only entry is blank. -/
def slackConfig : Config :=
  { Config.default with
    types := ["docs", "fix"]
    scopes := [" "]
    requireJiraTicket := true
    jiraProjects := ["XYZ", " ABC"]
    ignorePatterns := ["z"] }

/-- A validator with the policy of the first one. -/
def tightValidator : Validator Unit where
  rules := {
    types := ["fix"]
    scopes := ["api"]
    scopeRequired := true
    maxSubjectLength := 20
    allowBreakingChanges := false
    requireJiraTicket := true
    requireTicketRef := true
    jiraTicketPattern := none
    jiraProjects := ["ABC"]
    ignorePatterns := []
    rules := [.type ["fix"], .scopeRequired, .scope ["api"], .subjectLength 20,
      .breakingNotAllowed, .footerFormat, .jiraTicket ⟨true, none, ["ABC"]⟩, .ticketRef,
      .custom "q" ⟨"q", .char ⟨false, [.one 113], .exact, false⟩⟩ ""]
  }
  workers := 1
  memo := none
  deadline := none
  observers := []

/-- A validator with the policy of the second one and an empty memo. -/
def slackValidator : Validator Unit where
  rules := {
    types := ["docs", "fix"]
    scopes := []
    scopeRequired := false
    maxSubjectLength := 72
    allowBreakingChanges := true
    requireJiraTicket := true
    requireTicketRef := false
    jiraTicketPattern := none
    jiraProjects := ["XYZ", "ABC"]
    ignorePatterns := [⟨"z", .char ⟨false, [.one 122], .exact, false⟩⟩]
    rules := [.type ["docs", "fix"], .subjectLength 72, .footerFormat,
      .jiraTicket ⟨true, none, ["XYZ", "ABC"]⟩]
  }
  workers := 1
  memo := some (.empty none)
  deadline := none
  observers := []

theorem valid_when_loosened_slack :
  tightValidator.IsInUse tightConfig ∧ tightConfig.LoosenedTo slackConfig
    ∧ tightValidator.Fits unhurriedly
    ∧ (∃ verdict told v, tightValidator.validate "fix(api): quit ABC-1" none unhurriedly
        = (.ok verdict, told, v) ∧ verdict.valid = true)
    ∧ slackValidator.IsInUse slackConfig ∧ slackValidator.Fits unhurriedly
    ∧ ∃ verdict told w, slackValidator.validate "fix(api): quit ABC-1" none unhurriedly
        = (.ok verdict, told, w) ∧ verdict.valid = true
  := by
  have hv : tightValidator.IsInUse tightConfig := by
    constructor
    · rfl
    · nofun
  have hw : slackValidator.IsInUse slackConfig := by
    constructor
    · rfl
    · rintro _ ⟨⟩
      use none, .empty none, SharedMemo.start (.empty none), rfl, .refl
      rfl
  have hlooser : tightConfig.LoosenedTo slackConfig := by
    constructor
    · rfl
    · decide
    · apply Or.inl rfl
    · apply Or.inr
      decide
    · decide
    · apply Or.inl rfl
    · apply Or.inl rfl
    · apply Or.inl rfl
    · apply Or.inl rfl
    · apply List.nil_sublist
    · apply List.nil_subset
  have hfits : tightValidator.Fits unhurriedly := fun _ => Int.le_refl 1
  have hfits' : slackValidator.Fits unhurriedly := fun _ => Int.le_refl 1
  have hparse : Commit.parse "fix(api): quit ABC-1"
      = .ok ⟨"fix", some "api", false, false, "quit ABC-1", none, [], [],
        [⟨.jira, "ABC-1", "ABC-1"⟩]⟩ := by decide
  have hverdict : tightValidator.rules.verdict "fix(api): quit ABC-1" = .passed := by
    obtain ⟨_, _, hread⟩ := RuleSet.exists_readFrom hv.rules
    apply RuleSet.verdict_of_parse hread.inOrder rfl hparse
  obtain ⟨v, hvalidate⟩ := exists_validate_unhurriedly (v := tightValidator) rfl nofun
    "fix(api): quit ABC-1"
  rw [hverdict] at hvalidate
  obtain ⟨-, -, hvalid⟩ := valid_when_loosened hv hlooser hfits hvalidate rfl hw hfits'
  exact ⟨hv, hlooser, hfits, ⟨_, _, _, hvalidate, rfl⟩, hw, hfits', hvalid rfl nofun⟩

end Validator

end CommitPolicy
