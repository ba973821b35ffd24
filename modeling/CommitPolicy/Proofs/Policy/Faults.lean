import CommitPolicy.Proofs.Policy.RuleSet

/-!
# Faults of a configuration

A configuration must pass a list of checks to be a policy.  It is shown that

* the checks are made one after the other, in the order types, subject length, ticket pattern,
  ignore patterns, custom rules, and the first one that fails decides what is reported;
* a text that breaks the grammar of patterns is reported as such, with its owner;
* a text that is refused as a pattern for another reason stops the construction with a failure that
  is no configuration error.
-/

namespace CommitPolicy

open Text

/-- The pattern is refused for a fault of its grammar. -/
inductive Pattern.Refusal.IsFault : Pattern.Refusal → Prop where
  | intro (f : Fault) (position : Option Nat) : IsFault (.fault f position)

/-- Something that a configuration is checked for. -/
inductive Check where
  /-- There is an entry among the types. -/
  | types (entries : List String)
  /-- A subject may have a character. -/
  | subjectLength (n : Int)
  /-- The text `source` of `owner` is a pattern. -/
  | pattern (owner source : String)
  /-- The custom rule with the number `index` has a name. -/
  | ruleName (index : Nat) (r : CustomRule)
  /-- The custom rule has a pattern. -/
  | rulePattern (r : CustomRule)

section Checks

variable [ReadingLimits]

namespace Check

/-- The check finds nothing wrong. -/
def Passes : Check → Prop
  | types entries => ∃ entry ∈ entries, strip entry ≠ ""
  | subjectLength n => 0 < n
  | pattern _ source => ∃ p, Pattern.compileWithin source = .ok p
  | ruleName _ r => r.name ≠ ""
  | rulePattern r => r.pattern ≠ ""

/-- The check finds something wrong, and the construction stops with a failure. -/
inductive Fails : Check → Failure → Prop where
  | types {entries : List String} (h : ∀ entry ∈ entries, strip entry = "") :
      Fails (.types entries) (.config .noTypes)
  | subjectLength {n : Int} (h : n ≤ 0) :
      Fails (.subjectLength n) (.config (.badSubjectLength n))
  | fault {owner source : String} {f : Pattern.Fault} {position : Option Nat}
      (h : Pattern.compileWithin source = .error (.fault f position)) :
      Fails (.pattern owner source)
        (.config (.badPattern owner source (Pattern.faultText source f position)))
  | repetition {owner source : String}
      (h : Pattern.compileWithin source = .error .repetitionTooLarge) :
      Fails (.pattern owner source) .overflow
  | codePoint {owner source : String}
      (h : Pattern.compileWithin source = .error .codePointTooLarge) :
      Fails (.pattern owner source) .overflow
  | digits {owner source : String} {n : Nat}
      (h : Pattern.compileWithin source = .error (.tooManyDigits n)) :
      Fails (.pattern owner source) (.argument
        ("Exceeds the limit (4300 digits) for integer string conversion: value has " ++ toString n
          ++ " digits; use sys.set_int_max_str_digits() to increase the limit"))
  | modes {owner source : String}
      (h : Pattern.compileWithin source = .error .clashingModes) :
      Fails (.pattern owner source) (.argument "ASCII and UNICODE flags are incompatible")
  | depth {owner source : String} (h : Pattern.compileWithin source = .error .tooDeep) :
      Fails (.pattern owner source) .tooDeep
  | ruleName {index : Nat} {r : CustomRule} (h : r.name = "") :
      Fails (.ruleName index r) (.config (.unnamedRule index))
  | rulePattern {r : CustomRule} (h : r.pattern = "") :
      Fails (.rulePattern r) (.config (.missingPattern r.name))

variable {check : Check} {f g : Failure}

theorem Fails.not_passes (h : check.Fails f) :
  ¬check.Passes
  := by
  cases h with
  | types h => simpa [Passes] using h
  | subjectLength h => simpa [Passes] using h
  | fault h => simp [Passes, h]
  | repetition h => simp [Passes, h]
  | codePoint h => simp [Passes, h]
  | digits h => simp [Passes, h]
  | modes h => simp [Passes, h]
  | depth h => simp [Passes, h]
  | ruleName h => simpa [Passes] using h
  | rulePattern h => simpa [Passes] using h

/-- A failure is no configuration error only if a text is refused as a pattern for something else
than a fault of its grammar. -/
theorem Fails.config_or_refused (h : check.Fails f) :
  (∃ e, f = .config e)
    ∨ ∃ owner source refusal, check = .pattern owner source
      ∧ Pattern.compileWithin source = .error refusal ∧ ¬refusal.IsFault
  := by
  cases h with
  | types | subjectLength | fault | ruleName | rulePattern => exact .inl ⟨_, rfl⟩
  | repetition h | codePoint h | digits h | modes h | depth h =>
      exact .inr ⟨_, _, _, rfl, h, nofun⟩

/-- A text that is no pattern fails its check; it is reported with its owner if it has a fault, and
is not reported otherwise. -/
theorem exists_fails {source : String} {refusal : Pattern.Refusal} (owner : String)
    (h : Pattern.compileWithin source = .error refusal) :
  ∃ f, Fails (.pattern owner source) f
    ∧ (refusal.IsFault →
      ∃ e, f = .config e ∧ e.kind = .invalidPattern ∧ e.owner? = some owner)
    ∧ (¬refusal.IsFault → ∀ e, f ≠ .config e)
  := by
  cases refusal with
  | fault f position =>
      refine ⟨_, .fault h, fun _ => ⟨_, rfl, rfl, rfl⟩, ?_⟩
      intro hnot
      cases hnot (.intro f position)
  | repetitionTooLarge => exact ⟨_, .repetition h, nofun, fun _ => nofun⟩
  | codePointTooLarge => exact ⟨_, .codePoint h, nofun, fun _ => nofun⟩
  | tooManyDigits n => exact ⟨_, .digits h, nofun, fun _ => nofun⟩
  | clashingModes => exact ⟨_, .modes h, nofun, fun _ => nofun⟩
  | tooDeep => exact ⟨_, .depth h, nofun, fun _ => nofun⟩

/-- A check decides on one failure. -/
theorem Fails.unique (h : check.Fails f) (h' : check.Fails g) :
  g = f
  := by
  cases h with
  | types | subjectLength | ruleName | rulePattern =>
      cases h'
      rfl
  | fault h | repetition h | codePoint h | digits h | modes h | depth h =>
      cases h' <;> simp_all

end Check

/-! ### Checks one after the other -/

/-- The first check that fails decides on the failure; if all pass, there is a result. -/
inductive Decides {α : Type} : List Check → Except Failure α → Prop where
  | done (a : α) : Decides [] (.ok a)
  | here {check : Check} {later : List Check} {f : Failure} (h : check.Fails f) :
      Decides (check :: later) (.error f)
  | later {check : Check} {rest : List Check} {x : Except Failure α} (h : check.Passes)
      (hrest : Decides rest x) : Decides (check :: rest) x

namespace Decides

variable {α β : Type} {ks ls : List Check} {x : Except Failure α}

/-- The checks of two operations in sequence. -/
theorem bind {f : α → Except Failure β} (hx : Decides ks x) (hf : ∀ a, Decides ls (f a)) :
  Decides (ks ++ ls) (x >>= f)
  := by
  induction hx with
  | done a => apply hf
  | here h => apply here h
  | later h _ ih => apply later h ih

/-- The checks of an operation whose result is used. -/
theorem bind_ok {f : α → β} (hx : Decides ks x) :
  Decides ks (x >>= fun a => .ok (f a))
  := by
  rw [← List.append_nil ks]
  apply bind hx
  intro a
  apply done

/-- A check that is made before an operation. -/
theorem ite {p : Prop} [Decidable p] {check : Check} {f : Failure} (hfails : p → check.Fails f)
    (hpasses : ¬p → check.Passes) (hx : Decides ks x) :
  Decides (check :: ks) (if p then .error f else x)
  := by
  split
  · next h => apply here (hfails h)
  · next h => apply later (hpasses h) hx

theorem exists_eq_ok_iff (h : Decides ks x) :
  (∃ a, x = .ok a) ↔ ∀ check ∈ ks, check.Passes
  := by
  induction h with
  | done a => simp
  | here h => simp [h.not_passes]
  | later h _ ih => simp [h, ih]

theorem eq_error_iff (h : Decides ks x) (f : Failure) :
  x = .error f ↔ ∃ earlier check later, ks = earlier ++ check :: later
    ∧ (∀ k ∈ earlier, k.Passes) ∧ check.Fails f
  := by
  induction h with
  | done a => simp
  | here h =>
      constructor
      · rintro ⟨⟩
        exact ⟨[], _, _, rfl, by simp, h⟩
      · rintro ⟨earlier, check, later, heq, hearlier, hfails⟩
        cases earlier with
        | nil =>
            obtain ⟨rfl, -⟩ := List.cons.inj heq
            rw [hfails.unique h]
        | cons k earlier =>
            obtain ⟨rfl, -⟩ := List.cons.inj heq
            cases h.not_passes (hearlier _ List.mem_cons_self)
  | later h _ ih =>
      rw [ih]
      constructor
      · rintro ⟨earlier, check, later, rfl, hearlier, hfails⟩
        exact ⟨_ :: earlier, check, later, rfl, List.forall_mem_cons.mpr ⟨h, hearlier⟩, hfails⟩
      · rintro ⟨earlier, check, later, heq, hearlier, hfails⟩
        cases earlier with
        | nil =>
            obtain ⟨rfl, -⟩ := List.cons.inj heq
            cases hfails.not_passes h
        | cons k earlier =>
            obtain ⟨-, rfl⟩ := List.cons.inj heq
            use earlier, check, later, rfl, (List.forall_mem_cons.mp hearlier).2, hfails

end Decides

/-! ### The checks of a configuration -/

theorem decides_compileFor (owner source : String) :
  Decides [.pattern owner source] (compileFor owner source)
  := by
  unfold compileFor
  split
  · next p h =>
    have hpasses : Check.Passes (.pattern owner source) := ⟨p, h⟩
    apply Decides.later hpasses (.done p)
  · next h => apply Decides.here (.fault h)
  · next h => apply Decides.here (.repetition h)
  · next h => apply Decides.here (.codePoint h)
  · next h => apply Decides.here (.digits h)
  · next h => apply Decides.here (.modes h)
  · next h => apply Decides.here (.depth h)

/-- The check of a ticket pattern, which is none if it is empty. -/
def ticketChecks : Option String → List Check
  | none => []
  | some source => if source = "" then [] else [.pattern "jira_ticket_pattern" source]

theorem decides_compileTicketPattern (source : Option String) :
  Decides (ticketChecks source) (compileTicketPattern source)
  := by
  cases source with
  | none => apply Decides.done
  | some source =>
      rw [ticketChecks, compileTicketPattern]
      by_cases h : source = ""
      · rw [if_pos h, if_pos (String.isEmpty_iff.mpr h)]
        apply Decides.done
      · rw [if_neg h, if_neg (mt String.isEmpty_iff.mp h)]
        apply Decides.bind_ok (decides_compileFor _ _)

/-- The checks of the ignore patterns, the first one having the number `index`. -/
def ignoredChecks (index : Nat) (sources : List String) : List Check :=
  (sources.zipIdx index).map fun (source, i) =>
    .pattern ("ignore_patterns[" ++ toString i ++ "]") source

theorem decides_compileIgnored (index : Nat) (sources : List String) :
  Decides (ignoredChecks index sources) (compileIgnored index sources)
  := by
  induction sources generalizing index with
  | nil => apply Decides.done
  | cons source rest ih =>
      apply Decides.bind (decides_compileFor _ _)
      intro p
      apply Decides.bind_ok (ih (index + 1))

/-- The checks of a custom rule with the number `index`. -/
def ruleChecks (r : CustomRule) (index : Nat) : List Check :=
  [.ruleName index r, .rulePattern r, .pattern r.name r.pattern]

/-- The checks of the custom rules, the first one having the number `index`. -/
def customChecks (index : Nat) (customs : List CustomRule) : List Check :=
  (customs.zipIdx index).flatMap fun (r, i) => ruleChecks r i

theorem decides_compileCustom (index : Nat) (customs : List CustomRule) :
  Decides (customChecks index customs) (compileCustom index customs)
  := by
  induction customs generalizing index with
  | nil => apply Decides.done
  | cons r rest ih =>
      rw [compileCustom]
      apply Decides.ite
      · intro h
        apply Check.Fails.ruleName (String.isEmpty_iff.mp h)
      · intro h
        simpa [Check.Passes] using h
      · apply Decides.ite
        · intro h
          apply Check.Fails.rulePattern (String.isEmpty_iff.mp h)
        · intro h
          simpa [Check.Passes] using h
        · apply Decides.bind (decides_compileFor r.name r.pattern)
          intro p
          apply Decides.bind_ok (ih (index + 1))

namespace RuleSet

/-- The checks of a configuration, in the order in which they are made. -/
def checks (c : Config) : List Check :=
  [.types c.types, .subjectLength c.maxSubjectLength] ++ ticketChecks c.jiraTicketPattern
    ++ ignoredChecks 0 c.ignorePatterns ++ customChecks 0 c.customRules

theorem decides_ofConfig (c : Config) :
  Decides (checks c) (ofConfig c)
  := by
  unfold ofConfig checks
  simp only [List.cons_append, List.nil_append, List.append_assoc]
  apply Decides.ite
  · intro h
    apply Check.Fails.types
    rw [← cleanEntries_eq_nil_iff]
    simpa using h
  · intro h
    rw [List.isEmpty_iff, cleanEntries_eq_nil_iff] at h
    simpa [Check.Passes] using h
  · apply Decides.ite Check.Fails.subjectLength Int.not_le.mp
    apply Decides.bind (decides_compileTicketPattern _)
    intro ticket
    apply Decides.bind (decides_compileIgnored _ _)
    intro ignored
    apply Decides.bind_ok (decides_compileCustom _ _)

end RuleSet

end Checks

namespace RuleSet

/-- A configuration whose first ignore pattern can be read, whose second one is `source` and whose
third one has a fault. -/
def ignoring (source : String) : Config :=
  { Config.default with ignorePatterns := ["^ok", source, "("] }

/-- The checks that are made before the one of the second ignore pattern. -/
def checksBefore : List Check :=
  [.types Config.defaultTypes, .subjectLength 72, .pattern "ignore_patterns[0]" "^ok"]

/-- Why a text is no pattern, if it is none. -/
def refusal? (source : String) : Option Pattern.Refusal :=
  match Pattern.compileWithin source with
  | .ok _ => none
  | .error refusal => some refusal

theorem compile_of_refusal? {source : String} {refusal : Pattern.Refusal}
    (h : refusal? source = some refusal) :
  Pattern.compileWithin source = .error refusal
  := by
  unfold refusal? at h
  split at h
  · cases h
  · next hrefused => rw [hrefused, Option.some.inj h]

theorem passes_of_mem_checksBefore :
  ∀ k ∈ checksBefore, k.Passes
  := by
  have hread : refusal? "^ok" = none := by decide +kernel
  simp only [checksBefore, List.forall_mem_cons]
  have hlength : (0 : Int) < 72 := by decide
  refine ⟨⟨"feat", by decide, by decide⟩, hlength, ?_, by simp⟩
  cases h : Pattern.compileWithin "^ok" with
  | ok p => exact ⟨p, h⟩
  | error refusal => simp [refusal?, h] at hread

end RuleSet

end CommitPolicy
