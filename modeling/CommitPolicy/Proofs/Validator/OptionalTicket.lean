import CommitPolicy.Proofs.Validator.Looser
import CommitPolicy.Proofs.Validator.Ticket

/-!
# Tickets that are optional

A configuration that asks for a ticket is content with one acceptable reference.  One that does not
ask for any still objects to every reference that is not acceptable, so asking for a ticket is not
the stricter setting of the two: a message with references of both sorts is accepted only where a
ticket is asked for.

It is shown that a message that is valid where a ticket is asked for is valid where none is exactly
if it is ignored or all its references are acceptable.  They are if neither a pattern nor a project
is set, or if the message has only one reference.
-/

namespace CommitPolicy

open TicketRef (extract)

/-! ### What the configurations accept -/

namespace Config

/-- The configuration that asks for no ticket and is the same in every other option. -/
def withTicketOptional (cfg : Config) : Config := { cfg with requireJiraTicket := false }

/-- All references of a message to tickets of a project are acceptable. -/
def AcceptsAllTickets (cfg : Config) (message : String) : Prop :=
  ∀ r ∈ extract message, r.kind ≠ .github → cfg.acceptsTicket r = true

/-- The message has not more than one reference to a ticket of a project. -/
def HasOneTicket (message : String) : Prop :=
  ∀ r ∈ extract message, ∀ r' ∈ extract message, r.kind ≠ .github → r'.kind ≠ .github → r = r'

variable {cfg : Config} {c : Commit} {message : String}

theorem mem_projectRefs_iff (hparse : Commit.parse message = .ok c) {r : TicketRef} :
  r ∈ c.projectRefs ↔ r ∈ extract message ∧ r.kind ≠ .github
  := by
  rw [← TicketPolicy.candidates_eq_projectRefs, ← ticketRefs_eq_extract hparse]
  simp [TicketPolicy.candidates]

/-- A commit that is as every option asks stays so without the ticket exactly if no reference is
objected to. -/
theorem Admits.withTicketOptional_iff (h : cfg.Admits c message) :
  cfg.withTicketOptional.Admits c message ↔ ∀ r ∈ c.projectRefs, cfg.acceptsTicket r = true
  := by
  constructor
  · intro hoptional
    apply hoptional.everyTicket rfl
  · intro hevery
    constructor
    · apply h.type
    · apply h.scopeGiven
    · apply h.scope
    · apply h.subject
    · apply h.breaking
    · apply h.footers
    · rintro ⟨⟩
    · intro _
      apply hevery
    · apply h.ticketGiven
    · apply h.customRules

theorem Accepts.withTicketOptional_iff (h : cfg.Accepts message) :
  cfg.withTicketOptional.Accepts message
    ↔ cfg.ignores message = true ∨ cfg.AcceptsAllTickets message
  := by
  have hignores : cfg.withTicketOptional.ignores message = cfg.ignores message := rfl
  rcases h with hignored | ⟨c, hparse, hc⟩
  · apply iff_of_true
    · apply Or.inl (hignores.trans hignored)
    · apply Or.inl hignored
  · have hall : cfg.withTicketOptional.Admits c message ↔ cfg.AcceptsAllTickets message := by
      rw [hc.withTicketOptional_iff]
      simp only [mem_projectRefs_iff hparse, and_imp, AcceptsAllTickets]
    rw [Accepts, hignores, hparse, ← hall]
    simp

/-- Where neither a pattern nor a project is set, every reference is acceptable. -/
theorem acceptsAllTickets_of_nothing_set
    (hpattern : cfg.jiraTicketPattern = none ∨ cfg.jiraTicketPattern = some "")
    (hprojects : listsAny cfg.jiraProjects = false) :
  cfg.AcceptsAllTickets message
  := by
  intro r _ _
  rcases hpattern with hpattern | hpattern
  · simp [acceptsTicket, matchesTicket, hpattern, hprojects]
  · simp [acceptsTicket, matchesTicket, hpattern, hprojects]

/-- If the message has only one reference, then it is the acceptable one that is asked for. -/
theorem Accepts.of_hasOneTicket (h : cfg.Accepts message)
    (hrequired : cfg.requireJiraTicket = true) (hone : HasOneTicket message) :
  cfg.ignores message = true ∨ cfg.AcceptsAllTickets message
  := by
  rcases h with hignored | ⟨c, hparse, hc⟩
  · apply Or.inl hignored
  · apply Or.inr
    obtain ⟨r, hr, haccepts⟩ := hc.someTicket hrequired
    obtain ⟨hmem, hkind⟩ := (mem_projectRefs_iff hparse).mp hr
    intro r' hmem' hkind'
    rw [hone r' hmem' r hmem hkind' hkind]
    apply haccepts

end Config

namespace Validator

variable {O O' : Type}

/-- A message that a validator found valid where a ticket is asked for is valid where none is
exactly if it is ignored or all its references are acceptable.  If so, a validator with that
configuration finds it valid unless time runs out, and does so if it has no deadline and no other
caller is at work on the message; if not, it never finds it valid.  The references are acceptable if
neither a pattern nor a project is set, and if there is only one. -/
theorem valid_when_ticket_optional [ReadingLimits] {v : Validator O} {cfg : Config}
    (hv : v.IsInUse cfg)
    (hrequired : cfg.requireJiraTicket = true) {timing : Timing} (hfits : v.Fits timing)
    {message : String} {deadline : Option Deadline} {verdict : Verdict} {told : List (Notice O)}
    {v' : Validator O} (hvalidate : v.validate message deadline timing = (.ok verdict, told, v'))
    (hvalid : verdict.valid = true) {w : Validator O'} (hw : w.IsInUse cfg.withTicketOptional)
    {timing' : Timing} (hfits' : w.Fits timing') :
  ((w.rules.verdict message).valid = true
      ↔ cfg.ignores message = true ∨ cfg.AcceptsAllTickets message)
    ∧ (∀ deadline' verdict' told' w',
      w.validate message deadline' timing' = (.ok verdict', told', w') →
        (verdict'.valid = true → cfg.ignores message = true ∨ cfg.AcceptsAllTickets message)
        ∧ (cfg.ignores message = true ∨ cfg.AcceptsAllTickets message →
          verdict'.valid = true ∨ verdict'.timedOut = true))
    ∧ (cfg.ignores message = true ∨ cfg.AcceptsAllTickets message →
      w.deadline = none → message ∉ w.inFlight →
        ∃ verdict' told' w', w.validate message none timing' = (.ok verdict', told', w')
          ∧ verdict'.valid = true)
    ∧ (cfg.jiraTicketPattern = none ∨ cfg.jiraTicketPattern = some "" →
      listsAny cfg.jiraProjects = false → cfg.AcceptsAllTickets message)
    ∧ (Config.HasOneTicket message → cfg.ignores message = true ∨ cfg.AcceptsAllTickets message)
  := by
  have haccepts : cfg.Accepts message :=
    (hv.decides_of_valid hfits hvalidate hvalid).valid_iff.mp hvalid
  have hoptional := haccepts.withTicketOptional_iff
  refine ⟨?_, ?_, ?_, ?_, ?_⟩
  · rw [(hw.decides_verdict message).valid_iff, hoptional]
  · intro deadline' verdict' told' w' hvalidate'
    constructor
    · intro hvalid'
      apply hoptional.mp
      apply (hw.decides_of_valid hfits' hvalidate' hvalid').valid_iff.mp hvalid'
    · intro hall
      apply hw.valid_or_late (hoptional.mpr hall) hfits' hvalidate'
  · intro hall
    apply hw.exists_validate_valid (hoptional.mpr hall) hfits'
  · apply Config.acceptsAllTickets_of_nothing_set
  · apply haccepts.of_hasOneTicket hrequired

/-- A configuration that asks for a ticket of one project. -/
def teamConfig : Config :=
  { Config.default with
    requireJiraTicket := true
    jiraProjects := ["ABC"] }

/-- The policy of that configuration, or of the one in which the ticket is optional. -/
def teamRules (required : Bool) : RuleSet where
  types := Config.defaultTypes
  scopes := []
  scopeRequired := false
  maxSubjectLength := 72
  allowBreakingChanges := true
  requireJiraTicket := required
  requireTicketRef := false
  jiraTicketPattern := none
  jiraProjects := ["ABC"]
  ignorePatterns := []
  rules := [.type Config.defaultTypes, .subjectLength 72, .footerFormat,
    .jiraTicket ⟨required, none, ["ABC"]⟩]

/-- A validator with that policy and an empty memo. -/
def teamValidator (required : Bool) : Validator Unit where
  rules := teamRules required
  workers := 1
  memo := some (.empty none)
  deadline := none
  observers := []

theorem valid_when_ticket_optional_single :
  (teamValidator true).IsInUse teamConfig ∧ teamConfig.requireJiraTicket = true
    ∧ (teamValidator true).Fits unhurriedly
    ∧ (∃ verdict told v, (teamValidator true).validate "fix: x ABC-1 #2" none unhurriedly
        = (.ok verdict, told, v) ∧ verdict.valid = true)
    ∧ (teamValidator false).IsInUse teamConfig.withTicketOptional
    ∧ (teamValidator false).Fits unhurriedly
    ∧ Config.HasOneTicket "fix: x ABC-1 #2"
    ∧ ∃ verdict told w, (teamValidator false).validate "fix: x ABC-1 #2" none unhurriedly
        = (.ok verdict, told, w) ∧ verdict.valid = true
  := by
  have hv : (teamValidator true).IsInUse teamConfig := by
    constructor
    · rfl
    · rintro _ ⟨⟩
      use none, .empty none, SharedMemo.start (.empty none), rfl, .refl
      rfl
  have hw : (teamValidator false).IsInUse teamConfig.withTicketOptional := by
    constructor
    · rfl
    · rintro _ ⟨⟩
      use none, .empty none, SharedMemo.start (.empty none), rfl, .refl
      rfl
  have hfits : (teamValidator true).Fits unhurriedly := fun _ => Int.le_refl 1
  have hfits' : (teamValidator false).Fits unhurriedly := fun _ => Int.le_refl 1
  have hparse : Commit.parse "fix: x ABC-1 #2"
      = .ok ⟨"fix", none, false, false, "x ABC-1 #2", none, [], [],
        [⟨.github, "2", "#2"⟩, ⟨.jira, "ABC-1", "ABC-1"⟩]⟩ := by decide
  have hverdict : (teamValidator true).rules.verdict "fix: x ABC-1 #2" = .passed := by
    obtain ⟨_, _, hread⟩ := RuleSet.exists_readFrom hv.rules
    apply RuleSet.verdict_of_parse hread.inOrder rfl hparse
  have hempty : ∀ memo ∈ (teamValidator true).memo, memo = .empty memo.maxSize := by
    rintro _ ⟨⟩
    rfl
  obtain ⟨v, hvalidate⟩ := exists_validate_unhurriedly rfl hempty "fix: x ABC-1 #2"
  rw [hverdict] at hvalidate
  have hone : Config.HasOneTicket "fix: x ABC-1 #2" := by
    rw [Config.HasOneTicket, ← ticketRefs_eq_extract hparse]
    decide
  obtain ⟨-, -, hvalid, -, hsingle⟩ :=
    valid_when_ticket_optional hv rfl hfits hvalidate rfl hw hfits'
  exact ⟨hv, rfl, hfits, ⟨_, _, _, hvalidate, rfl⟩, hw, hfits', hone,
    hvalid (hsingle hone) rfl nofun⟩

/-- A message with an acceptable reference and another one is valid only where a ticket is asked
for. -/
theorem valid_only_when_ticket_required :
  RuleSet.ofConfig teamConfig = .ok (teamRules true) ∧ teamConfig.requireJiraTicket = true
    ∧ RuleSet.ofConfig teamConfig.withTicketOptional = .ok (teamRules false)
    ∧ (teamRules true).verdict "fix: x ABC-1 XYZ-2" = .passed
    ∧ (teamRules false).verdict "fix: x ABC-1 XYZ-2"
      = .failed [⟨"jira-ticket", "JIRA project 'XYZ' not in allowed projects: ABC"⟩]
  := by
  have hparse : Commit.parse "fix: x ABC-1 XYZ-2"
      = .ok ⟨"fix", none, false, false, "x ABC-1 XYZ-2", none, [], [],
        [⟨.jira, "ABC-1", "ABC-1"⟩, ⟨.jira, "XYZ-2", "XYZ-2"⟩]⟩ := by decide
  have hrequired : RuleSet.ofConfig teamConfig = .ok (teamRules true) := rfl
  have hoptional : RuleSet.ofConfig teamConfig.withTicketOptional = .ok (teamRules false) := rfl
  obtain ⟨_, _, hread⟩ := RuleSet.exists_readFrom hrequired
  obtain ⟨_, _, hread'⟩ := RuleSet.exists_readFrom hoptional
  refine ⟨hrequired, rfl, hoptional, ?_, ?_⟩
  · apply RuleSet.verdict_of_parse hread.inOrder rfl hparse
  · apply RuleSet.verdict_of_parse hread'.inOrder rfl hparse

end Validator

end CommitPolicy
