import CommitPolicy.Proofs.Message.OneLine
import CommitPolicy.Proofs.Policy.RuleSet

/-!
# Violations of one line

The text of a violation is made of texts of the configuration, parts of the message and numerals.
The parts of the message hold no line feed, so if no text of the configuration holds one, then no
violation does, whatever the message is.
-/

namespace CommitPolicy

open Text

/-- No text of the configuration that a policy is made from holds a line feed. -/
structure Config.IsOneLine (c : Config) : Prop where
  types : ∀ s ∈ c.types, OneLine s
  scopes : ∀ s ∈ c.scopes, OneLine s
  jiraTicketPattern : ∀ s ∈ c.jiraTicketPattern, OneLine s
  jiraProjects : ∀ s ∈ c.jiraProjects, OneLine s
  customRules : ∀ r ∈ c.customRules, OneLine r.name ∧ OneLine r.pattern ∧ OneLine r.message
  ignorePatterns : ∀ s ∈ c.ignorePatterns, OneLine s

/-! ### The policy of a configuration -/

/-- No text of the rule holds a line feed. -/
def Rule.IsOneLine : Rule → Prop
  | type allowed => ∀ s ∈ allowed, OneLine s
  | scope allowed => ∀ s ∈ allowed, OneLine s
  | jiraTicket policy =>
    (∀ p ∈ policy.pattern, OneLine p.source) ∧ ∀ s ∈ policy.projects, OneLine s
  | custom name pattern text => OneLine name ∧ OneLine pattern.source ∧ OneLine text
  | _ => True

/-- No text of the policy holds a line feed. -/
structure RuleSet.IsOneLine (rs : RuleSet) : Prop where
  rules : ∀ r ∈ rs.rules, r.IsOneLine
  ignorePatterns : ∀ p ∈ rs.ignorePatterns, OneLine p.source

theorem oneLine_of_mem_cleanEntries {entries : List String} (h : ∀ s ∈ entries, OneLine s) :
  ∀ s ∈ cleanEntries entries, OneLine s
  := by
  intro s hs
  obtain ⟨-, entry, hentry, rfl⟩ := mem_cleanEntries.mp hs
  apply (h entry hentry).strip

namespace RuleSet

variable {c : Config} {rs : RuleSet} (hc : c.IsOneLine)
include hc

theorem isOneLine_of_mem_builtIn {p : Option Pattern}
    (hp : IsTicketPattern c.jiraTicketPattern p) :
  ∀ r ∈ builtIn c (cleanEntries c.types) (cleanEntries c.scopes) (cleanEntries c.jiraProjects) p,
    r.IsOneLine
  := by
  have hticket : ∀ pattern ∈ p, OneLine pattern.source := by
    rintro pattern rfl
    rcases hp with ⟨-, h⟩ | ⟨text, _, htext, -, hfrom, ⟨⟩⟩
    · cases h
    · rw [hfrom.source_eq]
      apply hc.jiraTicketPattern text htext
  simp only [builtIn, List.forall_mem_append, List.forall_mem_singleton]
  refine ⟨⟨⟨⟨⟨⟨⟨?_, trivial⟩, ?_⟩, trivial⟩, trivial⟩, trivial⟩, ?_⟩, trivial⟩
  · apply oneLine_of_mem_cleanEntries hc.types
  · apply oneLine_of_mem_cleanEntries hc.scopes
  · use hticket, oneLine_of_mem_cleanEntries hc.jiraProjects

theorem isOneLine_of_ofConfig [ReadingLimits] (h : ofConfig c = .ok rs) :
  rs.IsOneLine
  := by
  obtain ⟨p, custom, hread⟩ := exists_readFrom h
  constructor
  · intro r hr
    rw [hread.rules] at hr
    rcases List.mem_append.mp ((rulesOf_sublist _ _ _ _ _ _).subset hr) with hr | hr
    · apply isOneLine_of_mem_builtIn hc hread.ticket r hr
    · obtain ⟨r', hr', -, pattern, hfrom, rfl⟩ := exists_of_mem_of_forall₂ hread.customRules hr
      obtain ⟨hname, hpattern, hmessage⟩ := hc.customRules r' hr'
      rw [← hfrom.source_eq] at hpattern
      exact ⟨hname, hpattern, hmessage⟩
  · intro pattern hpattern
    obtain ⟨source, hsource, hfrom⟩ := exists_of_mem_of_forall₂ hread.ignored hpattern
    rw [hfrom.source_eq]
    apply hc.ignorePatterns source hsource

end RuleSet

/-! ### What a rule objects to -/

namespace TicketPolicy

variable {policy : TicketPolicy} (hpattern : ∀ p ∈ policy.pattern, OneLine p.source)
  (hprojects : ∀ s ∈ policy.projects, OneLine s)

include hprojects in
theorem oneLine_requirement {rejected : List TicketRef} (h : ∀ r ∈ rejected, OneLine r.id) :
  OneLine (policy.requirement rejected)
  := by
  unfold requirement
  apply OneLine.append
  · apply OneLine.append
    · apply OneLine.literal (by decide)
    · split
      · decide
      · apply (OneLine.literal (by decide)).append (oneLine_joinWith (by decide) hprojects)
  · split
    · decide
    · apply (OneLine.literal (by decide)).append
      apply oneLine_joinWith (by decide) (List.forall_mem_map.mpr h)

include hpattern hprojects

theorem oneLine_objection {r : TicketRef} (hid : OneLine r.id)
    (hproject : ∀ project ∈ r.project, OneLine project) :
  OneLine (policy.objection r)
  := by
  unfold objection
  split
  · have hquoted : OneLine (r.project.getD "None") := by
      cases h : r.project with
      | none => decide
      | some project => apply hproject project h
    apply (hquoted.between (by decide) (by decide)).append
    apply oneLine_joinWith (by decide) hprojects
  · have hsource : OneLine (policy.pattern.elim "" (·.source)) := by
      cases h : policy.pattern with
      | none => decide
      | some p => apply hpattern p h
    apply OneLine.append _ (.literal (by decide))
    apply (hid.between (by decide) (by decide)).append hsource

/-- Only bare and bracketed keys are quoted. -/
theorem oneLine_of_check {c : Commit} (hc : c.IsOneLine) {text : String}
    (h : policy.check c.ticketRefs = some text) :
  OneLine text
  := by
  have hrejected : ∀ r ∈ (candidates c.ticketRefs).filter fun r => !policy.accepts r,
      OneLine r.id ∧ ∀ project ∈ r.project, OneLine project := by
    intro r hr
    obtain ⟨hmem, hkind⟩ := List.mem_filter.mp (List.mem_filter.mp hr).1
    apply hc.tickets r hmem (by simpa using hkind)
  rw [check] at h
  split at h
  · obtain ⟨-, ⟨⟩⟩ := Option.ite_none_left_eq_some.mp h
    apply oneLine_requirement hprojects
    intro r hr
    apply (hrejected r hr).1
  · obtain ⟨-, ⟨⟩⟩ := Option.ite_none_left_eq_some.mp h
    apply oneLine_joinWith (by decide)
    rw [List.forall_mem_map]
    intro r hr
    apply oneLine_objection hpattern hprojects (hrejected r hr).1 (hrejected r hr).2

end TicketPolicy

theorem Rule.oneLine_name {r : Rule} (hr : r.IsOneLine) :
  OneLine r.name
  := by
  have hkind : ∀ kind : RuleKind, OneLine kind.name := by
    intro kind
    cases kind with
    | _ => decide
  cases r with
  | custom name pattern standard =>
      rw [Rule.name]
      split
      · apply hkind
      · apply hr.1
  | _ => apply hkind

section Objection

variable {c : Commit} (hc : c.IsOneLine)
include hc

theorem Rule.oneLine_of_objection {r : Rule} (hr : r.IsOneLine) {message text : String}
    (h : r.objection c message = some text) :
  OneLine text
  := by
  cases r with
  | type allowed =>
      obtain ⟨-, ⟨⟩⟩ := Option.ite_none_left_eq_some.mp h
      apply (hc.type.between (by decide) (by decide)).append (oneLine_joinWith (by decide) hr)
  | scopeRequired =>
      obtain ⟨-, ⟨⟩⟩ := Option.ite_none_left_eq_some.mp h
      apply OneLine.append _ (.literal (by decide))
      apply (hc.type.between (by decide) (by decide)).append hc.subject
  | scope allowed =>
      rw [objection] at h
      cases hscope : c.scope with
      | none =>
          rw [hscope] at h
          cases h
      | some scope =>
          rw [hscope] at h
          obtain ⟨-, ⟨⟩⟩ := Option.ite_none_left_eq_some.mp h
          apply ((hc.scope scope hscope).between (by decide) (by decide)).append
          apply oneLine_joinWith (by decide) hr
  | subjectLength max =>
      obtain ⟨-, ⟨⟩⟩ := Option.ite_none_left_eq_some.mp h
      apply OneLine.append _ (.literal (by decide))
      apply OneLine.append _ (oneLine_intText max)
      apply (oneLine_natText _).between (by decide) (by decide)
  | breakingNotAllowed =>
      obtain ⟨-, ⟨⟩⟩ := Option.ite_none_right_eq_some.mp h
      apply (OneLine.literal (by decide)).append
      split
      · decide
      · decide
  | footerFormat =>
      obtain ⟨-, ⟨⟩⟩ := Option.ite_none_left_eq_some.mp h
      refine (oneLine_joinWith (by decide) ?_).between (by decide) (by decide)
      rw [List.forall_mem_map]
      intro line hline
      apply (hc.malformedFooters line hline).between (by decide) (by decide)
  | jiraTicket policy => apply TicketPolicy.oneLine_of_check hr.1 hr.2 hc h
  | ticketRef =>
      obtain ⟨-, ⟨⟩⟩ := Option.ite_none_left_eq_some.mp h
      apply OneLine.literal (by decide)
  | custom name pattern standard =>
      obtain ⟨-, hpattern, hstandard⟩ := hr
      obtain ⟨-, ⟨⟩⟩ := Option.ite_none_left_eq_some.mp h
      split
      · apply hpattern.between (by decide) (by decide)
      · apply hstandard

theorem Rule.oneLine_of_check {r : Rule} (hr : r.IsOneLine) {message : String} {v : Violation}
    (h : r.check c message = some v) :
  OneLine v.text
  := by
  obtain ⟨text, htext, rfl⟩ := Option.map_eq_some_iff.mp h
  apply ((oneLine_name hr).append (by decide)).append (oneLine_of_objection hc hr htext)

end Objection

/-! ### Verdicts -/

/-- No violation of the verdict holds a line feed. -/
def Verdict.IsOneLine (v : Verdict) : Prop := ∀ x ∈ v.violations, OneLine x.text

theorem oneLine_timeoutViolation (seconds : Option Float) (completed total : Nat) :
  OneLine (timeoutViolation seconds completed total).text
  := by
  have hname : OneLine (RuleKind.timeout.name ++ ": ") := by decide
  apply hname.append
  apply OneLine.append _ (.literal (by decide))
  apply OneLine.append _ (oneLine_natText total)
  apply OneLine.append _ (.literal (by decide))
  apply OneLine.append _ (oneLine_natText completed)
  apply (oneLine_wholeText _).between (by decide) (by decide)

namespace RuleSet

theorem exists_of_mem_sortedViolations {rs : RuleSet} {c : Commit} {message : String}
    {done : List Nat} {v : Violation} (h : v ∈ sortedViolations (rs.collect c message done)) :
  ∃ r ∈ rs.rules, r.check c message = some v
  := by
  obtain ⟨⟨key, _⟩, hmem, rfl⟩ := List.mem_map.mp h
  obtain ⟨i, -, hfound⟩ := List.mem_filterMap.mp (List.mem_mergeSort.mp hmem)
  obtain ⟨⟨key', r⟩, hrule, hcheck⟩ := Option.bind_eq_some_iff.mp hfound
  obtain ⟨v, hv, heq⟩ := Option.map_eq_some_iff.mp hcheck
  obtain ⟨-, rfl⟩ := Prod.mk.inj heq
  use r, (exists_of_mem_keyed (List.mem_of_getElem? hrule)).1, hv

variable {rs : RuleSet} (hrs : rs.IsOneLine)
include hrs

theorem IsOneLine.judge {c : Commit} (hc : c.IsOneLine) (message : String) (seconds : Option Float)
    (done : List Nat) :
  (rs.judge c message seconds done).IsOneLine
  := by
  have hviolations : ∀ v ∈ sortedViolations (rs.collect c message done), OneLine v.text := by
    intro v hv
    obtain ⟨r, hr, hcheck⟩ := exists_of_mem_sortedViolations hv
    apply Rule.oneLine_of_check hc (hrs.rules r hr) hcheck
  rw [RuleSet.judge]
  split
  · intro v hv
    rcases List.mem_append.mp hv with hv | hv
    · apply hviolations v hv
    · rw [List.mem_singleton.mp hv]
      apply oneLine_timeoutViolation
  · split
    · rintro v ⟨⟩
    · apply hviolations

/-- However a message is validated, no violation holds a line feed. -/
theorem IsOneLine.validate (message : String) (seconds : Option Float) (start : Float)
    (course : Course) :
  (rs.validate message seconds start course).IsOneLine
  := by
  rw [RuleSet.validate]
  split
  · nofun
  · split
    · next e hparse =>
      intro v hv
      rw [List.mem_singleton.mp hv]
      have hname : OneLine (RuleKind.format.name ++ ": ") := by decide
      apply hname.append (Commit.oneLine_message_of_parse hparse)
    · next c hparse => apply hrs.judge (Commit.isOneLine_of_parse hparse)

end RuleSet

end CommitPolicy
