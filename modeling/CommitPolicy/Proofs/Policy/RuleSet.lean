import CommitPolicy.Policy.RuleSet
import CommitPolicy.Proofs.Failure
import CommitPolicy.Proofs.Policy.Evaluate
import Mathlib.Data.List.Forall2

/-!
# Policies of configurations

What is known of the policy that a configuration gives:

* its entries are the entries of the configuration without white space at the ends, those that are
  blank left out;
* its patterns are the texts of the configuration, read;
* its rules are in reporting order.
-/

namespace CommitPolicy

open Text

/-! ### Entries -/

theorem mem_firstOfEach {seen entries : List String} {s : String} :
  s ∈ firstOfEach seen entries ↔ s ∈ entries ∧ s ∉ seen
  := by
  induction entries generalizing seen with
  | nil => simp [firstOfEach]
  | cons entry rest ih =>
      rw [firstOfEach]
      split
      · next hseen =>
        rw [ih, List.mem_cons]
        rw [List.contains_iff_mem] at hseen
        constructor
        · rintro ⟨hmem, hs⟩
          apply And.intro (Or.inr hmem) hs
        · rintro ⟨rfl | hmem, hs⟩
          · contradiction
          · apply And.intro hmem hs
      · next hseen =>
        rw [List.mem_cons, ih, List.mem_cons, List.mem_cons]
        rw [List.contains_iff_mem] at hseen
        by_cases hs : s = entry
        · simp [hs, hseen]
        · simp [hs]

/-- The entries that are kept are those that are not blank, without white space at the ends. -/
theorem mem_cleanEntries {entries : List String} {s : String} :
  s ∈ cleanEntries entries ↔ s ≠ "" ∧ ∃ entry ∈ entries, strip entry = s
  := by
  rw [cleanEntries, mem_firstOfEach]
  simp [and_comm]

theorem cleanEntries_eq_nil_iff {entries : List String} :
  cleanEntries entries = [] ↔ ∀ entry ∈ entries, strip entry = ""
  := by
  rw [List.eq_nil_iff_forall_not_mem]
  simp only [mem_cleanEntries, not_and, not_exists]
  constructor
  · intro h entry hentry
    by_contra hne
    apply h (strip entry) hne entry hentry rfl
  · rintro h s hs entry hentry rfl
    exact hs (h entry hentry)

/-! ### Entries of two lists -/

theorem exists_of_mem_of_forall₂ {α β : Type} {R : α → β → Prop} {as : List α} {bs : List β}
    (h : List.Forall₂ R as bs) {b : β} (hb : b ∈ bs) :
  ∃ a ∈ as, R a b
  := by
  induction h with
  | nil => cases hb
  | cons hab _ ih =>
      rcases List.mem_cons.mp hb with rfl | hb
      · exact ⟨_, List.mem_cons_self, hab⟩
      · obtain ⟨a, ha, hab⟩ := ih hb
        use a, List.mem_cons_of_mem _ ha, hab

/-! ### Patterns -/

/-- Whether the pattern written as `source` can be read and matches somewhere in a text. -/
def Pattern.finds (source text : String) : Bool :=
  match compile source with
  | .ok p => p.search text
  | .error _ => false

/-- The pattern is what is read from the text `source`. -/
def Pattern.IsReadFrom (source : String) (p : Pattern) : Prop := compile source = .ok p

theorem Pattern.IsReadFrom.finds_eq {source : String} {p : Pattern} (h : IsReadFrom source p)
    (text : String) :
  finds source text = p.search text
  := by
  rw [finds, h]

theorem Pattern.IsReadFrom.source_eq {source : String} {p : Pattern} (h : IsReadFrom source p) :
  p.source = source
  := by
  rw [IsReadFrom, compile] at h
  cases hnode : parse source with
  | error refusal =>
      rw [hnode] at h
      cases h
  | ok node =>
      rw [hnode] at h
      rw [← Except.ok.inj h]

/-- The rule is the custom rule, with its pattern read. -/
def Rule.IsReadFrom (r : CustomRule) (rule : Rule) : Prop :=
  r.name ≠ "" ∧ ∃ p, Pattern.IsReadFrom r.pattern p ∧ rule = .custom r.name p r.message

/-- The ticket pattern is the text of the configuration, read, if that text is not empty. -/
def IsTicketPattern (source : Option String) (ticket : Option Pattern) : Prop :=
  ((source = none ∨ source = some "") ∧ ticket = none)
    ∨ ∃ text p, source = some text ∧ text ≠ "" ∧ Pattern.IsReadFrom text p ∧ ticket = some p

section Compile

variable [ReadingLimits]

theorem Pattern.isReadFrom_of_compileWithin {source : String} {p : Pattern}
    (h : compileWithin source = .ok p) :
  IsReadFrom source p
  := by
  unfold compileWithin at h
  split at h
  · cases h
  · apply h

theorem isReadFrom_of_compileFor {owner source : String} {p : Pattern}
    (h : compileFor owner source = .ok p) :
  Pattern.IsReadFrom source p
  := by
  unfold compileFor at h
  split at h
  · next hp =>
    obtain rfl := Except.ok.inj h
    apply Pattern.isReadFrom_of_compileWithin hp
  · cases h
  · cases h
  · cases h
  · cases h
  · cases h
  · cases h

theorem forall₂_of_compileIgnored {index : Nat} {sources : List String} {ps : List Pattern}
    (h : compileIgnored index sources = .ok ps) :
  List.Forall₂ Pattern.IsReadFrom sources ps
  := by
  induction sources generalizing index ps with
  | nil =>
      obtain rfl := Except.ok.inj h
      apply List.Forall₂.nil
  | cons source rest ih =>
      rw [compileIgnored] at h
      obtain ⟨p, hp, h⟩ := exists_of_bind_eq_ok h
      obtain ⟨rest', hrest, h⟩ := exists_of_bind_eq_ok h
      obtain rfl := Except.ok.inj h
      apply List.Forall₂.cons (isReadFrom_of_compileFor hp) (ih hrest)

theorem forall₂_of_compileCustom {index : Nat} {customs : List CustomRule} {rules : List Rule}
    (h : compileCustom index customs = .ok rules) :
  List.Forall₂ Rule.IsReadFrom customs rules
  := by
  induction customs generalizing index rules with
  | nil =>
      obtain rfl := Except.ok.inj h
      apply List.Forall₂.nil
  | cons r rest ih =>
      rw [compileCustom] at h
      split at h
      · cases h
      · next hname =>
        split at h
        · cases h
        · obtain ⟨p, hp, h⟩ := exists_of_bind_eq_ok h
          obtain ⟨rest', hrest, h⟩ := exists_of_bind_eq_ok h
          obtain rfl := Except.ok.inj h
          apply List.Forall₂.cons _ (ih hrest)
          use by simpa using hname, p, isReadFrom_of_compileFor hp

theorem isTicketPattern_of_compileTicketPattern {source : Option String} {ticket : Option Pattern}
    (h : compileTicketPattern source = .ok ticket) :
  IsTicketPattern source ticket
  := by
  unfold compileTicketPattern at h
  split at h
  · obtain rfl := Except.ok.inj h
    exact .inl ⟨.inl rfl, rfl⟩
  · next text =>
    split at h
    · next hempty =>
      obtain rfl := Except.ok.inj h
      exact .inl ⟨.inr (congrArg some (String.isEmpty_iff.mp hempty)), rfl⟩
    · next hempty =>
      cases hp : compileFor "jira_ticket_pattern" text with
      | error e =>
          rw [hp] at h
          cases h
      | ok p =>
          rw [hp] at h
          obtain rfl := Except.ok.inj h
          apply Or.inr
          use text, p, rfl, by simpa using hempty, isReadFrom_of_compileFor hp

end Compile

namespace RuleSet

/-! ### The policy of a configuration -/

/-- A policy that was made of a configuration, with the ticket pattern `p` and the custom rules
`custom`. -/
structure ReadFrom (c : Config) (rs : RuleSet) (p : Option Pattern) (custom : List Rule) :
    Prop where
  ticket : IsTicketPattern c.jiraTicketPattern p
  ignored : List.Forall₂ Pattern.IsReadFrom c.ignorePatterns rs.ignorePatterns
  customRules : List.Forall₂ Rule.IsReadFrom c.customRules custom
  rules : rs.rules = rulesOf c (cleanEntries c.types) (cleanEntries c.scopes)
    (cleanEntries c.jiraProjects) p custom

theorem exists_readFrom [ReadingLimits] {c : Config} {rs : RuleSet} (h : ofConfig c = .ok rs) :
  ∃ p custom, ReadFrom c rs p custom
  := by
  unfold ofConfig at h
  simp only at h
  split at h
  · cases h
  · split at h
    · cases h
    · obtain ⟨p, hp, h⟩ := exists_of_bind_eq_ok h
      obtain ⟨ignored, hignored, h⟩ := exists_of_bind_eq_ok h
      obtain ⟨custom, hcustom, h⟩ := exists_of_bind_eq_ok h
      obtain rfl := Except.ok.inj h
      use p, custom
      constructor
      · apply isTicketPattern_of_compileTicketPattern hp
      · apply forall₂_of_compileIgnored hignored
      · apply forall₂_of_compileCustom hcustom
      · rfl

/-! ### The order of the rules -/

theorem kind_of_forall₂ {customs : List CustomRule} {rules : List Rule}
    (h : List.Forall₂ Rule.IsReadFrom customs rules) :
  ∀ r ∈ rules, r.kind = .custom
  := by
  intro r hr
  obtain ⟨_, -, -, p, -, rfl⟩ := exists_of_mem_of_forall₂ h hr
  rfl

/-- Every rule but the custom ones, each one once. -/
def builtIn (c : Config) (types scopes projects : List String) (p : Option Pattern) : List Rule :=
  [Rule.type types] ++ [Rule.scopeRequired] ++ [Rule.scope scopes]
    ++ [Rule.subjectLength c.maxSubjectLength] ++ [Rule.breakingNotAllowed] ++ [Rule.footerFormat]
    ++ [Rule.jiraTicket ⟨c.requireJiraTicket, p, projects⟩] ++ [Rule.ticketRef]

theorem ite_sublist (b : Bool) (r : Rule) :
  (if b then [r] else []).Sublist [r]
  := by
  cases b with
  | false => apply List.nil_sublist
  | true => apply List.Sublist.refl

theorem ite_not_sublist (b : Bool) (r : Rule) :
  (if b then [] else [r]).Sublist [r]
  := by
  cases b with
  | false => apply List.Sublist.refl
  | true => apply List.nil_sublist

theorem rulesOf_sublist (c : Config) (types scopes projects : List String) (p : Option Pattern)
    (custom : List Rule) :
  (rulesOf c types scopes projects p custom).Sublist
    (builtIn c types scopes projects p ++ custom)
  := by
  unfold rulesOf builtIn
  apply List.Sublist.append _ (List.Sublist.refl custom)
  apply List.Sublist.append _ (ite_sublist _ _)
  apply List.Sublist.append _ (ite_sublist _ _)
  apply List.Sublist.append _ (List.Sublist.refl _)
  apply List.Sublist.append _ (ite_not_sublist _ _)
  apply List.Sublist.append _ (List.Sublist.refl _)
  apply List.Sublist.append _ (ite_not_sublist _ _)
  apply List.Sublist.append (List.Sublist.refl _) (ite_sublist _ _)

/-- The rules of a configuration are in reporting order. -/
theorem inOrder_rulesOf {c : Config} {types scopes projects : List String} {p : Option Pattern}
    {custom : List Rule} (hcustom : ∀ r ∈ custom, r.kind = .custom) :
  InOrder (rulesOf c types scopes projects p custom)
  := by
  have hbuiltIn : InOrder (builtIn c types scopes projects p) := by
    have hpriorities : [1, 2, 3, 4, 5, 6, 7, 8].Pairwise (· ≤ ·) := by decide
    apply List.pairwise_map.mp hpriorities
  have hlast : ∀ r : Rule, r.kind.priority ≤ RuleKind.custom.priority := by
    intro r
    cases r <;> apply Nat.le_of_ble_eq_true rfl
  apply List.Pairwise.sublist (rulesOf_sublist c types scopes projects p custom)
  apply List.pairwise_append.mpr
  refine ⟨hbuiltIn, ?_, ?_⟩
  · apply List.pairwise_of_forall_mem_list
    intro r hr s hs
    rw [hcustom r hr, hcustom s hs]
  · intro r hr s hs
    rw [hcustom s hs]
    apply hlast

theorem ReadFrom.inOrder {c : Config} {rs : RuleSet} {p : Option Pattern} {custom : List Rule}
    (h : ReadFrom c rs p custom) :
  InOrder rs.rules
  := by
  rw [h.rules]
  apply inOrder_rulesOf
  apply kind_of_forall₂ h.customRules

end RuleSet

end CommitPolicy
