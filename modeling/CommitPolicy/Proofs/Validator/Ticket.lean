import CommitPolicy.Proofs.Message.Reference
import CommitPolicy.Proofs.Validator.Breaking

/-!
# Tickets that are asked for

A validator whose configuration asks for a ticket, and ignores no message, accepts only messages
with an acceptable reference to a ticket of a project.

A mark such as `GH-12` is a reference to GitHub, and a bare one is no ticket.  In brackets it is a
ticket of the project `GH` as well, and a message that has no other references is accepted only for
the sake of such a one.
-/

namespace CommitPolicy

open Footer (IsNumber)
open TicketRef (extract)

/-! ### What the configuration decides -/

/-- Only an ignore pattern makes a verdict an ignored one. -/
theorem Config.Decides.ignored_eq_false {cfg : Config} {message : String} {verdict : Verdict}
    (h : cfg.Decides message verdict) (hnone : cfg.ignorePatterns = []) :
  verdict.ignored = false
  := by
  cases h with
  | ignored hignored =>
      rw [Config.ignores, hnone] at hignored
      cases hignored
  | unreadable => rfl
  | read => rfl

theorem ticketRefs_eq_extract {message : String} {c : Commit} (h : Commit.parse message = .ok c) :
  c.ticketRefs = extract message
  := by
  obtain ⟨_, _, _, _, _, -, -, -, hc⟩ := Commit.exists_of_parse_eq_ok h
  rw [hc]
  rfl

/-- Where a ticket is asked for, a commit that breaks no rule has an acceptable one. -/
theorem exists_accepted_of_brokenRules_eq_nil {cfg : Config} {c : Commit} {message : String}
    (hrequired : cfg.requireJiraTicket = true) (h : cfg.brokenRules c message = []) :
  ∃ r ∈ c.ticketRefs, r.kind ≠ .github ∧ cfg.acceptsTicket r = true
  := by
  obtain ⟨r, hr, haccepts⟩ := (Config.brokenRules_eq_nil_iff.mp h).someTicket hrequired
  obtain ⟨hmem, hkind⟩ := List.mem_filter.mp hr
  use r, hmem
  constructor
  · intro hgithub
    rw [hgithub] at hkind
    cases hkind
  · apply haccepts

namespace Validator

variable {O : Type}

/-- Where a ticket is asked for and no message is ignored, a valid one has an acceptable ticket. -/
theorem IsInUse.exists_accepted [ReadingLimits] {v : Validator O} {cfg : Config}
    (hv : v.IsInUse cfg)
    (hrequired : cfg.requireJiraTicket = true) (hnone : cfg.ignorePatterns = []) {timing : Timing}
    (hfits : v.Fits timing) {message : String} {deadline : Option Deadline} {verdict : Verdict}
    {told : List (Notice O)} {w : Validator O}
    (hvalidate : v.validate message deadline timing = (.ok verdict, told, w))
    (hvalid : verdict.valid = true) :
  ∃ r ∈ extract message, r.kind ≠ .github ∧ cfg.acceptsTicket r = true
  := by
  have hdecides := hv.decides_of_valid hfits hvalidate hvalid
  obtain ⟨c, hparse, hbroken⟩ :=
    hdecides.brokenRules_eq_nil hvalid (hdecides.ignored_eq_false hnone)
  rw [← ticketRefs_eq_extract hparse]
  apply exists_accepted_of_brokenRules_eq_nil hrequired hbroken

/-- A reference by a bare key never has a mark for its identifier, and one to a ticket of a project
has it exactly if the mark stands in brackets.  So if a ticket is asked for and all references of a
message are to GitHub or have marks for identifiers, then the message is valid only if a mark stands
in brackets and is an acceptable ticket. -/
theorem accepted_mark_is_bracketed [ReadingLimits] :
  (∀ (s : String), ∀ r ∈ extract s, r.kind = .jira → ¬"GH-".toList <+: r.id.toList)
    ∧ (∀ (s : String) (ds : List Char), IsNumber ds →
      ((∃ r ∈ extract s, r.kind ≠ .github ∧ r.id.toList = "GH-".toList ++ ds)
        ↔ '[' :: ("GH-".toList ++ ds) ++ [']'] <:+: s.toList))
    ∧ ∀ (v : Validator O) (cfg : Config), v.IsInUse cfg → cfg.requireJiraTicket = true →
      cfg.ignorePatterns = [] → ∀ (timing : Timing), v.Fits timing →
        ∀ message deadline verdict told w,
          v.validate message deadline timing = (.ok verdict, told, w) →
          (∀ r ∈ extract message, r.kind = .github
            ∨ ∃ ds, IsNumber ds ∧ r.id.toList = "GH-".toList ++ ds) →
          verdict.valid = true →
            ∃ ds, IsNumber ds ∧ '[' :: ("GH-".toList ++ ds) ++ [']'] <:+: message.toList
              ∧ ∃ r ∈ extract message, r.kind = .generic ∧ r.id.toList = "GH-".toList ++ ds
                ∧ cfg.acceptsTicket r = true
  := by
  have hbare : ∀ (s : String), ∀ r ∈ extract s, r.kind = .jira →
      ¬"GH-".toList <+: r.id.toList := by
    intro s r
    obtain ⟨_, _, _, h⟩ := TicketRef.exists_holds s
    apply h.not_mark
  have hbracketed : ∀ (s : String) (ds : List Char), IsNumber ds →
      ((∃ r ∈ extract s, r.kind ≠ .github ∧ r.id.toList = "GH-".toList ++ ds)
        ↔ '[' :: ("GH-".toList ++ ds) ++ [']'] <:+: s.toList) := by
    intro s ds hds
    obtain ⟨_, _, _, h⟩ := TicketRef.exists_holds s
    constructor
    · rintro ⟨r, hr, hkind, hid⟩
      apply h.infix_of_mark hr hkind hid
    · apply h.exists_of_infix hds
  use hbare, hbracketed
  intro v cfg hv hrequired hnone timing hfits message deadline verdict told w hvalidate honly hvalid
  obtain ⟨r, hr, hkind, haccepts⟩ := hv.exists_accepted hrequired hnone hfits hvalidate hvalid
  obtain ⟨ds, hds, hid⟩ := (honly r hr).resolve_left hkind
  use ds, hds, (hbracketed message ds hds).mp ⟨r, hr, hkind, hid⟩, r, hr
  constructor
  · cases hk : r.kind with
    | jira =>
        have hmark := hbare message r hr hk
        rw [hid] at hmark
        exact absurd (List.prefix_append _ _) hmark
    | github => exact absurd hk hkind
    | generic => rfl
  · use hid, haccepts

/-- A configuration that asks for a ticket. -/
def ticketConfig : Config := { Config.default with requireJiraTicket := true }

/-- A validator with the policy of that configuration and an empty memo. -/
def ticketValidator : Validator Unit where
  rules := {
    types := Config.defaultTypes
    scopes := []
    scopeRequired := false
    maxSubjectLength := 72
    allowBreakingChanges := true
    requireJiraTicket := true
    requireTicketRef := false
    jiraTicketPattern := none
    jiraProjects := []
    ignorePatterns := []
    rules := [.type Config.defaultTypes, .subjectLength 72, .footerFormat,
      .jiraTicket ⟨true, none, []⟩]
  }
  workers := 1
  memo := some (.empty none)
  deadline := none
  observers := []

/-- The commit of a message whose only reference is a mark in brackets. -/
def markedCommit : Commit where
  type := "fix"
  scope := none
  breaking := false
  breakingMarker := false
  subject := "resolve [GH-12]"
  body := none
  footers := []
  malformedFooters := []
  ticketRefs := [⟨.github, "12", "GH-12"⟩, ⟨.generic, "GH-12", "[GH-12]"⟩]

theorem accepted_mark_is_bracketed_marked :
  ticketValidator.IsInUse ticketConfig ∧ ticketConfig.requireJiraTicket = true
    ∧ ticketConfig.ignorePatterns = [] ∧ ticketValidator.Fits unhurriedly
    ∧ (∃ verdict told w, ticketValidator.validate "fix: resolve [GH-12]" none unhurriedly
        = (.ok verdict, told, w) ∧ verdict.valid = true)
    ∧ (∀ r ∈ extract "fix: resolve [GH-12]", r.kind = .github
      ∨ ∃ ds, IsNumber ds ∧ r.id.toList = "GH-".toList ++ ds)
    ∧ ∃ r ∈ extract "fix: resolve [GH-12]", r.kind = .generic
      ∧ ticketConfig.acceptsTicket r = true
  := by
  have hv : ticketValidator.IsInUse ticketConfig := by
    constructor
    · rfl
    · rintro _ ⟨⟩
      use none, .empty none, SharedMemo.start (.empty none), rfl, .refl
      rfl
  have hfits : ticketValidator.Fits unhurriedly := fun _ => Int.le_refl 1
  have hparse : Commit.parse "fix: resolve [GH-12]" = .ok markedCommit := by decide
  have hverdict : ticketValidator.rules.verdict "fix: resolve [GH-12]" = .passed := by
    obtain ⟨_, _, hread⟩ := RuleSet.exists_readFrom hv.rules
    apply RuleSet.verdict_of_parse hread.inOrder rfl hparse
  have hempty : ∀ memo ∈ ticketValidator.memo, memo = .empty memo.maxSize := by
    rintro _ ⟨⟩
    rfl
  obtain ⟨w, hvalidate⟩ := exists_validate_unhurriedly rfl hempty "fix: resolve [GH-12]"
  rw [hverdict] at hvalidate
  have honly : ∀ r ∈ extract "fix: resolve [GH-12]", r.kind = .github
      ∨ ∃ ds, IsNumber ds ∧ r.id.toList = "GH-".toList ++ ds := by
    rw [← ticketRefs_eq_extract hparse]
    intro r hr
    rcases List.mem_pair.mp hr with rfl | rfl
    · exact .inl rfl
    · exact .inr ⟨['1', '2'], ⟨by simp, List.all_eq_true.mp rfl⟩, rfl⟩
  obtain ⟨ds, hds, -, r, hr, hkind, -, haccepts⟩ :=
    accepted_mark_is_bracketed.2.2 _ _ hv rfl rfl _ hfits _ _ _ _ _ hvalidate honly rfl
  exact ⟨hv, rfl, rfl, hfits, ⟨_, _, _, hvalidate, rfl⟩, honly, r, hr, hkind, haccepts⟩

end Validator

end CommitPolicy
