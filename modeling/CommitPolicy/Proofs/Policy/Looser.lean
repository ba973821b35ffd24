import CommitPolicy.Proofs.Policy.Breaches

/-!
# Looser configurations

`Config.LoosenedTo` compares two configurations option by option.  Where an option lists what is
allowed, the looser configuration lists at least as much; but an empty list of scopes or projects
allows any, so it is the loosest one of all.  It is shown that a commit that is as every option of a
configuration asks is as every option of a looser one asks.
-/

namespace CommitPolicy

/-- The second list allows what the first one allows, if an empty list allows everything: it is
empty, or the first one is not and its entries are in the second.  White space at the ends of
entries and blank entries do not count. -/
def Widens (entries entries' : List String) : Prop :=
  cleanEntries entries' = []
    ∨ cleanEntries entries ≠ [] ∧ cleanEntries entries ⊆ cleanEntries entries'

/-- No option of the second configuration asks for more than that of the first, and both ask for a
ticket or neither. -/
structure Config.LoosenedTo (cfg cfg' : Config) : Prop where
  requireJiraTicket : cfg'.requireJiraTicket = cfg.requireJiraTicket
  types : cleanEntries cfg.types ⊆ cleanEntries cfg'.types
  scopes : Widens cfg.scopes cfg'.scopes
  jiraProjects : Widens cfg.jiraProjects cfg'.jiraProjects
  maxSubjectLength : cfg.maxSubjectLength ≤ cfg'.maxSubjectLength
  scopeRequired : cfg'.scopeRequired = false ∨ cfg.scopeRequired = true
  requireTicketRef : cfg'.requireTicketRef = false ∨ cfg.requireTicketRef = true
  allowBreakingChanges : cfg'.allowBreakingChanges = true ∨ cfg.allowBreakingChanges = false
  jiraTicketPattern : cfg'.jiraTicketPattern = cfg.jiraTicketPattern ∨ cfg'.jiraTicketPattern = none
  customRules : cfg'.customRules.Sublist cfg.customRules
  ignorePatterns : cfg.ignorePatterns ⊆ cfg'.ignorePatterns

/-! ### Entries -/

theorem lists_of_subset {entries entries' : List String}
    (h : cleanEntries entries ⊆ cleanEntries entries') {s : String} (hs : s ≠ "")
    (hlists : lists entries s = true) :
  lists entries' s = true
  := by
  rw [← contains_cleanEntries hs, List.contains_iff_mem] at hlists ⊢
  apply h hlists

theorem listsAny_iff {entries : List String} :
  listsAny entries = true ↔ cleanEntries entries ≠ []
  := by
  rw [ne_eq, ← List.isEmpty_iff, isEmpty_cleanEntries]
  simp

/-- If the wider list allows only its entries, the other one does so too, and they are among
them. -/
theorem Widens.of_listsAny {entries entries' : List String} (h : Widens entries entries')
    (hany : listsAny entries' = true) :
  listsAny entries = true ∧ cleanEntries entries ⊆ cleanEntries entries'
  := by
  rw [listsAny_iff] at hany ⊢
  apply h.resolve_left hany

namespace Config

variable {cfg cfg' : Config} (h : cfg.LoosenedTo cfg')
include h

/-! ### Tickets -/

theorem LoosenedTo.matchesTicket {r : TicketRef} (hr : cfg.matchesTicket r = true) :
  cfg'.matchesTicket r = true
  := by
  rw [Config.matchesTicket]
  rcases h.jiraTicketPattern with heq | hnone
  · rw [heq]
    apply hr
  · rw [hnone]

/-- A reference that is acceptable stays acceptable. -/
theorem LoosenedTo.acceptsTicket {r : TicketRef} (hproject : r.project ≠ some "")
    (hr : cfg.acceptsTicket r = true) :
  cfg'.acceptsTicket r = true
  := by
  rw [Config.acceptsTicket, Bool.and_eq_true] at hr ⊢
  obtain ⟨hmatches, hlisted⟩ := hr
  use h.matchesTicket hmatches
  cases hany : listsAny cfg'.jiraProjects with
  | false => rfl
  | true =>
      obtain ⟨hany', hsubset⟩ := h.jiraProjects.of_listsAny hany
      rw [hany', Bool.not_true, Bool.false_or, Option.any_eq_true] at hlisted
      obtain ⟨project, heq, hlists⟩ := hlisted
      have hne : project ≠ "" := by
        rintro rfl
        exact hproject heq
      rw [Bool.not_true, Bool.false_or, Option.any_eq_true]
      use project, heq, lists_of_subset hsubset hne hlists

/-! ### Commits -/

/-- A commit that is as every option asks stays so. -/
theorem LoosenedTo.admits {c : Commit} {message : String} (hparse : Commit.parse message = .ok c)
    (hc : cfg.Admits c message) :
  cfg'.Admits c message
  := by
  have hticket : ∀ r ∈ c.projectRefs, cfg.acceptsTicket r = true → cfg'.acceptsTicket r = true := by
    intro r hr
    apply h.acceptsTicket (project_ne_empty_of_mem hparse (List.mem_of_mem_filter hr))
  constructor
  · apply lists_of_subset h.types (type_ne_empty hparse) hc.type
  · intro hrequired
    rcases h.scopeRequired with hoff | hon
    · rw [hoff] at hrequired
      cases hrequired
    · apply hc.scopeGiven hon
  · intro hany scope heq
    obtain ⟨hany', hsubset⟩ := h.scopes.of_listsAny hany
    have hne : scope ≠ "" := by
      rintro rfl
      exact scope_ne_empty hparse heq
    apply lists_of_subset hsubset hne (hc.scope hany' scope heq)
  · apply Int.le_trans hc.subject h.maxSubjectLength
  · intro hforbidden
    rcases h.allowBreakingChanges with hallowed | hforbidden'
    · rw [hallowed] at hforbidden
      cases hforbidden
    · apply hc.breaking hforbidden'
  · apply hc.footers
  · intro hrequired
    obtain ⟨r, hr, haccepts⟩ := hc.someTicket (h.requireJiraTicket.symm.trans hrequired)
    use r, hr, hticket r hr haccepts
  · intro hrequired r hr
    apply hticket r hr (hc.everyTicket (h.requireJiraTicket.symm.trans hrequired) r hr)
  · intro hrequired
    rcases h.requireTicketRef with hoff | hon
    · rw [hoff] at hrequired
      cases hrequired
    · apply hc.ticketGiven hon
  · intro r hr
    apply hc.customRules r (h.customRules.subset hr)

end Config

end CommitPolicy
