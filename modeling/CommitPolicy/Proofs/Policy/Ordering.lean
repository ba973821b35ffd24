import CommitPolicy.Proofs.Policy.RuleSet

/-!
# The orders of a policy

* The entries of a list stand in the order in which they first appear in it, each one once.
* The keys of the rules of a policy increase, so what the rules find is sorted as soon as it is
  collected in the order of the rules.
-/

namespace CommitPolicy

open Text

/-! ### Entries by first appearance -/

/-- The entries that first occur in a list are in its order. -/
theorem pairwise_firstOfEach (seen entries : List String) :
  (firstOfEach seen entries).Pairwise fun s t => entries.idxOf s < entries.idxOf t
  := by
  induction entries generalizing seen with
  | nil => apply List.Pairwise.nil
  | cons entry rest ih =>
      -- What is kept of the rest is not the entry in front, which has been seen by then.
      have hrest : ∀ seen', entry ∈ seen' → (firstOfEach seen' rest).Pairwise
          fun s t => (entry :: rest).idxOf s < (entry :: rest).idxOf t := by
        intro seen' hseen
        apply (ih seen').imp_of_mem
        intro s t hs ht hst
        have hnes : entry ≠ s := fun h => (mem_firstOfEach.mp hs).2 (h ▸ hseen)
        have hnet : entry ≠ t := fun h => (mem_firstOfEach.mp ht).2 (h ▸ hseen)
        rw [List.idxOf_cons_ne _ hnes, List.idxOf_cons_ne _ hnet]
        omega
      rw [firstOfEach]
      split
      · next hseen => apply hrest seen (List.contains_iff_mem.mp hseen)
      · apply List.Pairwise.cons _ (hrest _ List.mem_cons_self)
        intro t ht
        have hne : entry ≠ t := fun h => (mem_firstOfEach.mp ht).2 (h ▸ List.mem_cons_self)
        rw [List.idxOf_cons_self, List.idxOf_cons_ne _ hne]
        omega

/-- Leaving out members that do not matter keeps the order of first appearance. -/
theorem idxOf_lt_of_idxOf_filter_lt {α : Type} [BEq α] [LawfulBEq α] {p : α → Bool} {a b : α}
    (ha : p a = true) (hb : p b = true) {l : List α}
    (h : (l.filter p).idxOf a < (l.filter p).idxOf b) :
  l.idxOf a < l.idxOf b
  := by
  induction l with
  | nil => simp at h
  | cons c rest ih =>
      by_cases hc : p c = true
      · rw [List.filter_cons_of_pos hc] at h
        by_cases hca : c = a
        · subst hca
          by_cases hcb : c = b
          · subst hcb
            omega
          · rw [List.idxOf_cons_self, List.idxOf_cons_ne _ hcb]
            omega
        · by_cases hcb : c = b
          · subst hcb
            rw [List.idxOf_cons_self] at h
            omega
          · rw [List.idxOf_cons_ne _ hca, List.idxOf_cons_ne _ hcb] at h ⊢
            have := ih (by omega)
            omega
      · rw [List.filter_cons_of_neg hc] at h
        have hca : c ≠ a := fun heq => hc (heq ▸ ha)
        have hcb : c ≠ b := fun heq => hc (heq ▸ hb)
        rw [List.idxOf_cons_ne _ hca, List.idxOf_cons_ne _ hcb]
        have := ih h
        omega

/-- `kept` are the entries that are not blank, without white space at the ends, each one once and in
the order in which they first appear. -/
structure ListsEntries (entries kept : List String) : Prop where
  mem_iff : ∀ s, s ∈ kept ↔ s ≠ "" ∧ ∃ entry ∈ entries, strip entry = s
  nodup : kept.Nodup
  inOrder : kept.Pairwise fun s t => (entries.map strip).idxOf s < (entries.map strip).idxOf t

theorem listsEntries_cleanEntries (entries : List String) :
  ListsEntries entries (cleanEntries entries)
  := by
  have hkept := pairwise_firstOfEach [] ((entries.map strip).filter fun s => !s.isEmpty)
  rw [← cleanEntries] at hkept
  constructor
  · intro s
    apply mem_cleanEntries
  · apply hkept.imp
    rintro s _ hlt rfl
    exact Nat.lt_irrefl _ hlt
  · apply hkept.imp_of_mem
    intro s t hs ht hlt
    apply idxOf_lt_of_idxOf_filter_lt _ _ hlt
    · simpa using (mem_cleanEntries.mp hs).1
    · simpa using (mem_cleanEntries.mp ht).1

namespace RuleSet

/-! ### Keys -/

theorem lex_of_keyLe {a b : Nat × Nat} (h : keyLe a b = true) (hne : a ≠ b) :
  Prod.Lex (· < ·) (· < ·) a b
  := by
  obtain ⟨a₁, a₂⟩ := a
  obtain ⟨b₁, b₂⟩ := b
  rw [Prod.lex_def]
  rcases keyLe_iff.mp h with hlt | ⟨heq, hle⟩
  · apply Or.inl hlt
  · have hne₂ : a₂ ≠ b₂ := fun h => hne (Prod.ext heq h)
    apply Or.inr ⟨heq, Nat.lt_of_le_of_ne hle hne₂⟩

/-- What the rules find is sorted by key if it is collected in the order of the rules. -/
theorem pairwise_collect {rs : RuleSet} (hrules : InOrder rs.rules) (c : Commit) (message : String)
    {done : List Nat} (hdone : done.Pairwise (· < ·)) :
  (rs.collect c message done).Pairwise fun x y => keyLe x.1 y.1 = true
  := by
  apply hdone.filterMap
  intro i j hij u hu w hw
  obtain ⟨x, hx, hu⟩ := Option.bind_eq_some_iff.mp hu
  obtain ⟨y, hy, hw⟩ := Option.bind_eq_some_iff.mp hw
  obtain ⟨_, -, rfl⟩ := Option.map_eq_some_iff.mp hu
  obtain ⟨_, -, rfl⟩ := Option.map_eq_some_iff.mp hw
  obtain ⟨hi, rfl⟩ := List.getElem?_eq_some_iff.mp hx
  obtain ⟨hj, rfl⟩ := List.getElem?_eq_some_iff.mp hy
  apply (List.pairwise_iff_getElem.mp (pairwise_keyed hrules 0) i j hi hj hij).1

/-! ### Lists that rules hold -/

theorem entries_of_ofConfig [ReadingLimits] {c : Config} {rs : RuleSet} (h : ofConfig c = .ok rs) :
  rs.types = cleanEntries c.types ∧ rs.scopes = cleanEntries c.scopes
  := by
  unfold ofConfig at h
  simp only at h
  split at h
  · cases h
  · split at h
    · cases h
    · obtain ⟨_, -, h⟩ := exists_of_bind_eq_ok h
      obtain ⟨_, -, h⟩ := exists_of_bind_eq_ok h
      obtain ⟨_, -, h⟩ := exists_of_bind_eq_ok h
      obtain rfl := Except.ok.inj h
      use rfl

section Lists

variable {c : Config} {rs : RuleSet} {p : Option Pattern} {custom : List Rule}
  (h : ReadFrom c rs p custom)
include h

theorem ReadFrom.type_mem_iff {allowed : List String} :
  Rule.type allowed ∈ rs.rules ↔ allowed = cleanEntries c.types
  := by
  have hcustom : Rule.type allowed ∉ custom := by
    intro hmem
    cases kind_of_forall₂ h.customRules _ hmem
  simp [h.rules, rulesOf, hcustom]

theorem ReadFrom.scope_mem_iff {allowed : List String} :
  Rule.scope allowed ∈ rs.rules ↔ cleanEntries c.scopes ≠ [] ∧ allowed = cleanEntries c.scopes
  := by
  have hcustom : Rule.scope allowed ∉ custom := by
    intro hmem
    cases kind_of_forall₂ h.customRules _ hmem
  simp [h.rules, rulesOf, hcustom]

end Lists

/-- Cleaning a list keeps its entries that are not blank, each one once and where it first appears.
In a policy that is made of a configuration

* the keys of the rules strictly increase, so no two rules share one;
* sorting what is found by key changes nothing where the rules were done in their order, be it all
  of them or only some;
* the rules on types and scopes hold, for what they accept and what they show, the lists of the
  policy, which are the cleaned ones of the configuration.
-/
theorem keys_increase_entries_once [ReadingLimits] :
  (∀ entries, ListsEntries entries (cleanEntries entries))
    ∧ ∀ c rs, ofConfig c = .ok rs →
      (rs.orderedRules.map (·.1)).Pairwise (Prod.Lex (· < ·) (· < ·))
      ∧ (rs.orderedRules.map (·.1)).Nodup
      ∧ (∀ commit message done, done.Pairwise (· < ·) →
        (rs.collect commit message done).mergeSort (fun x y => keyLe x.1 y.1)
          = rs.collect commit message done)
      ∧ rs.types = cleanEntries c.types ∧ rs.scopes = cleanEntries c.scopes
      ∧ (∀ allowed, Rule.type allowed ∈ rs.rules ↔ allowed = rs.types)
      ∧ ∀ allowed, Rule.scope allowed ∈ rs.rules ↔ rs.scopes ≠ [] ∧ allowed = rs.scopes
  := by
  use listsEntries_cleanEntries
  intro c rs h
  obtain ⟨p, custom, hread⟩ := exists_readFrom h
  obtain ⟨htypes, hscopes⟩ := entries_of_ofConfig h
  have hkeys := pairwise_keyed hread.inOrder 0
  refine ⟨?_, ?_, ?_, htypes, hscopes, ?_, ?_⟩
  · apply List.pairwise_map.mpr
    apply hkeys.imp
    rintro x y ⟨hle, hne⟩
    apply lex_of_keyLe hle hne
  · apply List.pairwise_map.mpr (hkeys.imp And.right)
  · intro commit message done hdone
    apply List.mergeSort_of_pairwise
    apply pairwise_collect hread.inOrder commit message hdone
  · intro allowed
    rw [hread.type_mem_iff, htypes]
  · intro allowed
    rw [hread.scope_mem_iff, hscopes]

/-- A configuration with blank and repeated entries and two custom rules of one name. -/
def crowdedConfig : Config :=
  { Config.default with
    types := [" fix ", "", "feat", "fix"]
    scopes := [" "]
    scopeRequired := true
    requireJiraTicket := true
    customRules := [⟨"q", "q", ""⟩, ⟨"q", "q", "no q"⟩] }

/-- The policy of that configuration. -/
def crowdedRules : RuleSet where
  types := ["fix", "feat"]
  scopes := []
  scopeRequired := true
  maxSubjectLength := 72
  allowBreakingChanges := true
  requireJiraTicket := true
  requireTicketRef := false
  jiraTicketPattern := none
  jiraProjects := []
  ignorePatterns := []
  rules := [.type ["fix", "feat"], .scopeRequired, .subjectLength 72, .footerFormat,
    .jiraTicket ⟨true, none, []⟩, .custom "q" ⟨"q", .char ⟨false, [.one 113], .exact, false⟩⟩ "",
    .custom "q" ⟨"q", .char ⟨false, [.one 113], .exact, false⟩⟩ "no q"]

theorem keys_increase_entries_once_crowded :
  ofConfig crowdedConfig = .ok crowdedRules
    ∧ crowdedRules.orderedRules.map (·.1)
      = [(1, 0), (2, 1), (4, 2), (6, 3), (7, 4), (9, 5), (9, 6)]
    ∧ (crowdedRules.orderedRules.map (·.1)).Pairwise (Prod.Lex (· < ·) (· < ·))
    ∧ [1, 4, 6].Pairwise (· < ·)
    ∧ (∀ commit, (crowdedRules.collect commit "" [1, 4, 6]).mergeSort (fun x y => keyLe x.1 y.1)
      = crowdedRules.collect commit "" [1, 4, 6])
    ∧ cleanEntries [" fix ", "", "feat", "fix"] = ["fix", "feat"]
    ∧ ListsEntries [" fix ", "", "feat", "fix"] ["fix", "feat"]
  := by
  have hrules : ofConfig crowdedConfig = .ok crowdedRules := rfl
  have hdone : [1, 4, 6].Pairwise (· < ·) := by decide
  obtain ⟨hentries, hpolicy⟩ := keys_increase_entries_once
  obtain ⟨hkeys, -, hsorted, -⟩ := hpolicy crowdedConfig crowdedRules hrules
  use hrules, rfl, hkeys, hdone, fun commit => hsorted commit "" _ hdone, by decide
  apply hentries [" fix ", "", "feat", "fix"]

end RuleSet

end CommitPolicy
