import CommitPolicy.Proofs.Config.Fields
import CommitPolicy.Proofs.Config.Source
import CommitPolicy.Proofs.Text.Utf8
import CommitPolicy.Proofs.Yaml.Restored
import CommitPolicy.Proofs.Yaml.Writer

/-!
# What a configuration depends on

The configuration that is loaded for a directory, or the failure to load it, depends on the source
that comes first, and on those environment variables whose fields the source does not set.  Nothing
else that there is can change it: neither files that come later, however malformed, nor the variables
of fields that the source sets.

Each field is read from the source if the source sets it, and otherwise from its variable if that is
set; otherwise it has its default.
-/

namespace CommitPolicy

namespace Config

variable {entries : List (Value × Value)} {env env' : Environment} {key : String}

/-! ### Variables -/

/-- The environments agree on the variables of all fields that the document does not set. -/
def AgreeBeyond (entries : List (Value × Value)) (env env' : Environment) : Prop :=
  ∀ name field form, (name, field, form) ∈ settingVariables →
    Value.lookup field entries = none → env.lookup name = env'.lookup name

/-- A key is found in the settings of an environment if it is the field of a variable that is
set. -/
theorem lookup_environmentEntries_cases (env : Environment) (key : String) :
  (∃ name form s, (name, key, form) ∈ settingVariables ∧ env.lookup name = some s
      ∧ Value.lookup key (environmentEntries env) = some (form.read s))
    ∨ ((∀ name form, (name, key, form) ∈ settingVariables → env.lookup name = none)
      ∧ Value.lookup key (environmentEntries env) = none)
  := by
  by_cases hkey : key ∈ settingVariables.map (·.2.1)
  · obtain ⟨⟨name, field, form⟩, hvariable, rfl⟩ := List.mem_map.mp hkey
    have hlookup := lookup_environmentEntries env hvariable
    cases hs : env.lookup name with
    | some s =>
        apply Or.inl
        use name, form, s, hvariable, hs
        rw [hlookup, hs, Option.map_some]
    | none =>
        apply Or.inr
        have hnone : Value.lookup field (environmentEntries env) = none := by
          rw [hlookup, hs, Option.map_none]
        refine ⟨?_, hnone⟩
        intro name' form' hvariable'
        rw [lookup_environmentEntries env hvariable'] at hnone
        apply Option.map_eq_none_iff.mp hnone
  · apply Or.inr
    constructor
    · intro name form hvariable
      exfalso
      apply hkey (List.mem_map.mpr ⟨_, hvariable, rfl⟩)
    · rw [environmentEntries_eq]
      apply lookup_entriesOf_of_not_mem env hkey

theorem lookup_environmentEntries_eq (h : AgreeBeyond entries env env')
    (hkey : Value.lookup key entries = none) :
  Value.lookup key (environmentEntries env) = Value.lookup key (environmentEntries env')
  := by
  obtain ⟨name, form, s, hvariable, hs, hlookup⟩ | ⟨hnone, hlookup⟩ :=
    lookup_environmentEntries_cases env key
  · rw [hlookup, lookup_environmentEntries env' hvariable, ← h name key form hvariable hkey, hs,
      Option.map_some]
  · obtain ⟨name, form, s, hvariable, hs, -⟩ | ⟨-, hlookup'⟩ :=
      lookup_environmentEntries_cases env' key
    · rw [← h name key form hvariable hkey, hnone name form hvariable] at hs
      cases hs
    · rw [hlookup, hlookup']

/-! ### Documents -/

theorem lookup_sanitizeEntries (key : String) (entries : List (Value × Value)) :
  Value.lookup key (sanitizeEntries entries)
    = (Value.lookup key entries).map (sanitizeUnder (.text key))
  := by
  rw [sanitizeEntries_eq, Value.lookup_map]

/-- A document gives the same configuration, or the same failure, in two environments that agree on
the variables of the fields that it does not set. -/
theorem ofDocument_congr {v : Value} (path : String)
    (h : ∀ entries, v = .map entries → AgreeBeyond entries env env') :
  ofDocument env path v = ofDocument env' path v
  := by
  cases v with
  | map entries =>
      have hlookup : ∀ key, Value.lookup key (sanitizeEntries entries ++ environmentEntries env)
          = Value.lookup key (sanitizeEntries entries ++ environmentEntries env') := by
        intro key
        rw [Value.lookup_append, Value.lookup_append, lookup_sanitizeEntries]
        cases hkey : Value.lookup key entries with
        | some v => rfl
        | none => rw [lookup_environmentEntries_eq (h entries rfl) hkey]
      rw [ofDocument, ofDocument, build, build, ofEntries_congr hlookup]
  | _ => rfl

theorem outcome_congr [ReadingLimits] {source : Source}
    (h : ∀ entries, source.settings = .ok (.map entries) → AgreeBeyond entries env env') :
  source.outcome env = source.outcome env'
  := by
  rw [Source.outcome, Source.outcome]
  cases hsettings : source.settings with
  | error e => rfl
  | ok v =>
      change (ofDocument env source.origin v >>= _) = (ofDocument env' source.origin v >>= _)
      rw [ofDocument_congr source.origin]
      rintro entries rfl
      apply h entries hsettings

/-! ### Fields -/

/-- What a field is read from: its value in the document, where a log file is sanitized, or the text
of its variable, or its default. -/
inductive Settled {α : Type} (entries : List (Value × Value)) (env : Environment) (field : String)
    (default : α) (read : List String → Value → Field α) : α → Prop where
  | document {v : Value} {a : α} (hv : Value.lookup field entries = some v)
      (hread : read [field] (sanitizeUnder (.text field) v) = .ok a) :
      Settled entries env field default read a
  | variable {name s : String} {form : VariableForm} {a : α}
      (hv : Value.lookup field entries = none) (hname : (name, field, form) ∈ settingVariables)
      (hs : env.lookup name = some s) (hread : read [field] (form.read s) = .ok a) :
      Settled entries env field default read a
  | default (hv : Value.lookup field entries = none)
      (hname : ∀ name form, (name, field, form) ∈ settingVariables → env.lookup name = none) :
      Settled entries env field default read default

theorem settled_of_get {α : Type} {default a : α} {read : List String → Value → Field α}
    (h : Field.get (sanitizeEntries entries ++ environmentEntries env) key default read = .ok a) :
  Settled entries env key default read a
  := by
  rw [Field.get, Value.lookup_append, lookup_sanitizeEntries] at h
  cases hkey : Value.lookup key entries with
  | some v =>
      rw [hkey] at h
      apply Settled.document hkey h
  | none =>
      rw [hkey, Option.map_none, Option.none_or] at h
      obtain ⟨name, form, s, hvariable, hs, hlookup⟩ | ⟨hnone, hlookup⟩ :=
        lookup_environmentEntries_cases env key
      · rw [hlookup] at h
        apply Settled.variable hkey hvariable hs h
      · rw [hlookup] at h
        obtain rfl := Except.ok.inj h
        apply Settled.default hkey hnone

/-- Every field is read from the document, from its variable, or has its default. -/
structure SettledBy (c : Config) (entries : List (Value × Value)) (env : Environment) : Prop where
  types : Settled entries env "types" default.types Field.texts c.types
  scopes : Settled entries env "scopes" default.scopes Field.texts c.scopes
  scopeRequired :
    Settled entries env "scope_required" default.scopeRequired Field.bool c.scopeRequired
  maxSubjectLength :
    Settled entries env "max_subject_length" default.maxSubjectLength Field.integer
      c.maxSubjectLength
  allowBreakingChanges :
    Settled entries env "allow_breaking_changes" default.allowBreakingChanges Field.bool
      c.allowBreakingChanges
  requireJiraTicket :
    Settled entries env "require_jira_ticket" default.requireJiraTicket Field.bool
      c.requireJiraTicket
  requireTicketRef :
    Settled entries env "require_ticket_ref" default.requireTicketRef Field.bool
      c.requireTicketRef
  jiraTicketPattern :
    Settled entries env "jira_ticket_pattern" default.jiraTicketPattern Field.optionalText
      c.jiraTicketPattern
  jiraProjects : Settled entries env "jira_projects" default.jiraProjects Field.texts c.jiraProjects
  customRules :
    Settled entries env "custom_rules" default.customRules (Field.items Field.customRule)
      c.customRules
  ignorePatterns :
    Settled entries env "ignore_patterns" default.ignorePatterns Field.texts c.ignorePatterns
  alwaysLog : Settled entries env "always_log" default.alwaysLog Field.bool c.alwaysLog
  logFile : Settled entries env "log_file" default.logFile Field.optionalText c.logFile

theorem settledBy_of_readFrom {c : Config}
    (h : ReadFrom (sanitizeEntries entries ++ environmentEntries env) c) :
  c.SettledBy entries env
  := by
  constructor
  case types => apply settled_of_get h.types
  case scopes => apply settled_of_get h.scopes
  case scopeRequired => apply settled_of_get h.scopeRequired
  case maxSubjectLength => apply settled_of_get h.maxSubjectLength
  case allowBreakingChanges => apply settled_of_get h.allowBreakingChanges
  case requireJiraTicket => apply settled_of_get h.requireJiraTicket
  case requireTicketRef => apply settled_of_get h.requireTicketRef
  case jiraTicketPattern => apply settled_of_get h.jiraTicketPattern
  case jiraProjects => apply settled_of_get h.jiraProjects
  case customRules => apply settled_of_get h.customRules
  case ignorePatterns => apply settled_of_get h.ignorePatterns
  case alwaysLog => apply settled_of_get h.alwaysLog
  case logFile => apply settled_of_get h.logFile

theorem settledBy_of_ofDocument {v : Value} {path : String} {c : Config}
    (h : ofDocument env path v = .ok c) :
  ∃ entries, v = .map entries ∧ c.SettledBy entries env
  := by
  cases v with
  | map entries =>
      rw [ofDocument, build] at h
      split at h
      · cases h
      · split at h
        · next hentries =>
          obtain rfl := Except.ok.inj h
          exact ⟨entries, rfl, settledBy_of_readFrom (readFrom_of_ofEntries hentries)⟩
        · cases h
  | _ => cases h

theorem settledBy_of_outcome [ReadingLimits] {source : Source} {loaded : LoadedConfig}
    (h : source.outcome env = .ok loaded) :
  loaded.source = source.path?
    ∧ ∃ entries, source.settings = .ok (.map entries) ∧ loaded.config.SettledBy entries env
  := by
  obtain ⟨v, hsettings, h⟩ := exists_of_bind_eq_ok h
  obtain ⟨c, hdocument, h⟩ := exists_of_bind_eq_ok h
  obtain rfl := Except.ok.inj h
  obtain ⟨entries, rfl, hsettled⟩ := settledBy_of_ofDocument hdocument
  exact ⟨rfl, entries, hsettings, hsettled⟩

/-- In every directory exactly one source comes first: the settings file of the directory, if it is
a file; else its project file, unless that is a TOML document without a section for the program;
else the settings file of the user; else nothing.  What is loaded is the same, a configuration or a
failure, wherever the same source comes first and the environment agrees on the variables of the
fields that the source does not set.  Every field of a configuration that is loaded is read from the
source, from its variable if the source does not set it, or has its default. -/
theorem load_first_source [ReadingLimits] (s : Surroundings) (directory : Option Path) :
  ∃ source, FirstOf s.files (candidates s (directory.getD s.files.workingDirectory)) source
    ∧ (∀ other, FirstOf s.files (candidates s (directory.getD s.files.workingDirectory)) other →
      other = source)
    ∧ (∀ (s' : Surroundings) (directory' : Option Path),
      FirstOf s'.files (candidates s' (directory'.getD s'.files.workingDirectory)) source →
      (∀ entries, source.settings = .ok (.map entries) →
        AgreeBeyond entries s.environment s'.environment) →
      load s' none directory' = load s none directory)
    ∧ ∀ loaded, load s none directory = .ok loaded →
      loaded.source = source.path?
        ∧ ∃ entries, source.settings = .ok (.map entries)
          ∧ loaded.config.SettledBy entries s.environment
  := by
  obtain ⟨source, hfirst⟩ :=
    exists_firstOf s.files (candidates s (directory.getD s.files.workingDirectory))
  have hload : load s none directory = source.outcome s.environment := loadIn_eq_outcome hfirst
  use source, hfirst, fun other hother => hfirst.unique hother
  constructor
  · intro s' directory' hfirst' hagree
    have hload' : load s' none directory' = source.outcome s'.environment :=
      loadIn_eq_outcome hfirst'
    rw [hload, hload', outcome_congr hagree]
  · intro loaded hloaded
    rw [hload] at hloaded
    apply settledBy_of_outcome hloaded

/-- Settings that only bound the length of subjects. -/
def brief : List (Value × Value) := [(.text "max_subject_length", .int 50)]

/-- They are in the settings file of the working directory, and the scopes are in a variable. -/
def tidy : Surroundings where
  files :=
    ⟨[(["work"], .directory),
      (["work", ".fast-cc-hooks.yaml"], .file (Text.encode (Yaml.writeMapping brief)))],
      ⟨"/", ["work"]⟩⟩
  home := ⟨"/", ["work"]⟩
  environment := [("FAST_CC_SCOPES", "api, ")]

/-- There are also a project file that is no text, and a variable that is no number. -/
def cluttered : Surroundings where
  files :=
    { tidy.files with
      entries := (["work", "pyproject.toml"], .file [0xFF]) :: tidy.files.entries }
  home := tidy.home
  environment := ("FAST_CC_MAX_SUBJECT_LENGTH", "many") :: tidy.environment

/-- The source that comes first for both. -/
def briefSource : Source :=
  .file ⟨"/", ["work", ".fast-cc-hooks.yaml"]⟩ (Text.encode (Yaml.writeMapping brief))

theorem settings_briefSource :
  briefSource.settings = .ok (.map brief)
  := by
  have hyaml : Yaml.Restores "/work/.fast-cc-hooks.yaml" brief := by
    apply Yaml.Restores.of_test
    decide +kernel
  have hlines := Yaml.universalNewlines_of_simple (Yaml.simple_writeMapping brief)
  have htext := Text.decode?_encode (Yaml.writeMapping brief)
  have hdocument : Source.documentOf ⟨"/", ["work", ".fast-cc-hooks.yaml"]⟩
      (Yaml.writeMapping brief) = .ok (.map brief) := by
    rw [Source.documentOf, hlines, String.ofList_toList]
    exact hyaml
  rw [briefSource, Source.settings, Source.settingsOf, stop?_of_documentOf htext hdocument, htext]
  apply bind_eq_ok hdocument
  rfl

theorem load_first_source_cluttered :
  load cluttered none none = load tidy none none
    ∧ ∃ c, load tidy none none = .ok ⟨c, briefSource.path?⟩
      ∧ c.maxSubjectLength = 50 ∧ c.scopes = ["api"] ∧ c.types = defaultTypes
      ∧ c.SettledBy brief tidy.environment
  := by
  obtain ⟨source, hfirst, hunique, hsame, hsettled⟩ := load_first_source tidy none
  obtain rfl : briefSource = source := hunique _ (.here rfl trivial)
  have hload : load tidy none none
      = .ok ⟨{ default with maxSubjectLength := 50, scopes := ["api"] }, briefSource.path?⟩ := by
    have h : load tidy none none = briefSource.outcome tidy.environment := loadIn_eq_outcome hfirst
    rw [h, Source.outcome, settings_briefSource]
    rfl
  constructor
  · apply hsame cluttered none (.here rfl trivial)
    intro entries hentries name field form hvariable hkey
    obtain rfl := Value.map.inj (Except.ok.inj (settings_briefSource.symm.trans hentries))
    have hvariables : ∀ x ∈ settingVariables,
        x.1 = "FAST_CC_MAX_SUBJECT_LENGTH" → x.2.1 = "max_subject_length" := by decide
    have hname : (name == "FAST_CC_MAX_SUBJECT_LENGTH") = false := by
      apply beq_false_of_ne
      intro heq
      obtain rfl : field = "max_subject_length" := hvariables _ hvariable heq
      cases hkey
    rw [cluttered, List.lookup_cons, hname]
  · refine ⟨_, hload, rfl, rfl, rfl, ?_⟩
    obtain ⟨-, entries, hentries, hc⟩ := hsettled _ hload
    obtain rfl := Value.map.inj (Except.ok.inj (settings_briefSource.symm.trans hentries))
    apply hc

end Config

end CommitPolicy
