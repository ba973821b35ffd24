import CommitPolicy.Config.Environment
import CommitPolicy.Config.Save
import CommitPolicy.Proofs.Failure
import Mathlib.Tactic.Use

/-!
# Reading settings

What is found under a key in the entries of a document and of the environment, and how the fields of
a configuration are read from it.  The entries that a configuration is saved as are read as its
fields.
-/

namespace CommitPolicy

/-! ### Finding an entry -/

namespace Value

theorem lookup_append (key : String) (above below : List (Value × Value)) :
  lookup key (above ++ below) = (lookup key above).or (lookup key below)
  := by
  fun_induction lookup key above with
  | case1 => rfl
  | case2 v rest => simp [lookup]
  | case3 k v rest hk ih => simp [lookup, hk, ih]
  | case4 e rest hother ih =>
      obtain ⟨k, v⟩ := e
      cases k with
      | text k => cases hother k v rfl
      | _ => apply ih

/-- Values that are changed under their keys. -/
theorem lookup_map (key : String) (f : Value → Value → Value) (entries : List (Value × Value)) :
  lookup key (entries.map fun (k, v) => (k, f k v)) = (lookup key entries).map (f (.text key))
  := by
  fun_induction lookup key entries with
  | case1 => rfl
  | case2 v rest => rw [List.map_cons, lookup, if_pos rfl, Option.map_some]
  | case3 k v rest hk ih => rw [List.map_cons, lookup, if_neg hk, ih]
  | case4 e rest hother ih =>
      obtain ⟨k, v⟩ := e
      cases k with
      | text k => cases hother k v rfl
      | _ => apply ih

/-- An entry that is there only if there is a value for it. -/
theorem lookup_toList {α : Type} (key name : String) (a : Option α) (write : α → Value) :
  lookup key (a.toList.map fun a => (.text name, write a))
    = if name = key then a.map write else none
  := by
  cases a with
  | none => simp [lookup]
  | some a => simp [lookup]

end Value

/-- The settings of some variables in an environment. -/
def entriesOf (env : Environment) (table : List (String × String × VariableForm)) :
    List (Value × Value) :=
  table.flatMap fun (name, field, form) =>
    (env.lookup name).toList.map fun s => (.text field, form.read s)

theorem environmentEntries_eq (env : Environment) :
  environmentEntries env = entriesOf env settingVariables
  := by
  rw [environmentEntries]
  induction settingVariables with
  | nil => rfl
  | cons x rest ih =>
      obtain ⟨name, field, form⟩ := x
      rw [List.filterMap_cons, entriesOf, List.flatMap_cons, ih]
      dsimp only
      cases env.lookup name with
      | none => rfl
      | some s => rfl

section Variables

variable (env : Environment) {table : List (String × String × VariableForm)}
  {name field : String} {form : VariableForm}

theorem lookup_entriesOf_of_not_mem (h : field ∉ table.map (·.2.1)) :
  Value.lookup field (entriesOf env table) = none
  := by
  induction table with
  | nil => rfl
  | cons x rest ih =>
      rw [List.map_cons, List.mem_cons, not_or] at h
      obtain ⟨hx, hrest⟩ := h
      rw [entriesOf, List.flatMap_cons, Value.lookup_append, Value.lookup_toList,
        if_neg (Ne.symm hx), Option.none_or]
      apply ih hrest

theorem lookup_entriesOf (h : (name, field, form) ∈ table)
    (hfields : (table.map (·.2.1)).Nodup) :
  Value.lookup field (entriesOf env table) = (env.lookup name).map form.read
  := by
  induction table with
  | nil => cases h
  | cons x rest ih =>
      obtain ⟨hx, hrest⟩ := List.nodup_cons.mp hfields
      rw [entriesOf, List.flatMap_cons, Value.lookup_append, Value.lookup_toList]
      rcases List.mem_cons.mp h with rfl | h
      · change Option.or _ (Value.lookup field (entriesOf env rest)) = _
        rw [if_pos rfl, lookup_entriesOf_of_not_mem env hx, Option.or_none]
      · have hne : x.2.1 ≠ field := by
          rintro rfl
          apply hx (List.mem_map.mpr ⟨_, h, rfl⟩)
        rw [if_neg hne, Option.none_or]
        apply ih h hrest

end Variables

/-- The setting of a variable is found under its field. -/
theorem lookup_environmentEntries (env : Environment) {name field : String} {form : VariableForm}
    (h : (name, field, form) ∈ settingVariables) :
  Value.lookup field (environmentEntries env) = (env.lookup name).map form.read
  := by
  rw [environmentEntries_eq]
  apply lookup_entriesOf env h (by decide)

/-! ### Reading an entry -/

namespace Field

variable {α : Type} {entries : List (Value × Value)} {key : String} {v : Value}

theorem get_of_lookup (h : Value.lookup key entries = some v) (default : α)
    (read : List String → Value → Field α) :
  get entries key default read = read [key] v
  := by
  rw [get, h]

theorem get_optionalText {s : Option String} (h : Value.lookup key entries = s.map .text) :
  get entries key none optionalText = .ok s
  := by
  rw [get, h]
  cases s with
  | none => rfl
  | some s => rfl

theorem all_cons {f : Field α} {rest : List (Field α)} {a : α} {l : List α} (hf : f = .ok a)
    (hrest : all rest = .ok l) :
  all (f :: rest) = .ok (a :: l)
  := by
  unfold all
  rw [hf, hrest]

section Items

variable {read : List String → Value → Field α} (write : α → Value)
  (h : ∀ path a, read path (write a) = .ok a) (path : List String) (l : List α)
include h

theorem all_zipIdx (start : Nat) :
  all (((l.map write).zipIdx start).map fun (v, i) => read (path ++ [toString i]) v) = .ok l
  := by
  induction l generalizing start with
  | nil => rfl
  | cons a l ih => apply all_cons (h _ a) (ih (start + 1))

/-- Items are read back if each one is. -/
theorem items_of_read :
  items read path (.list (l.map write)) = .ok l
  := all_zipIdx write h path l 0

end Items

theorem texts_list (path : List String) (l : List String) :
  texts path (.list (l.map .text)) = .ok l
  := items_of_read .text (fun _ _ => rfl) path l

theorem customRules_list (path : List String) (rules : List CustomRule) :
  items customRule path (.list (rules.map fun r => .map r.entries)) = .ok rules
  := items_of_read (fun r : CustomRule => .map r.entries) (fun _ _ => rfl) path rules

end Field

namespace Config

/-! ### Sanitizing -/

variable {key : String}

/-- The value under a key, sanitized if it is the text of a log file. -/
def sanitizeUnder : Value → Value → Value
  | .text "log_file", .text s => .text (sanitize s)
  | _, v => v

theorem sanitizeUnder_of_ne (h : key ≠ "log_file") (v : Value) :
  sanitizeUnder (.text key) v = v
  := by
  rw [sanitizeUnder]
  rintro s ⟨⟩
  cases h rfl

theorem sanitizeEntries_eq (entries : List (Value × Value)) :
  sanitizeEntries entries = entries.map fun (k, v) => (k, sanitizeUnder k v)
  := by
  rw [sanitizeEntries, List.map_inj_left]
  rintro ⟨k, v⟩ -
  split
  · next heq =>
    cases heq
    rfl
  · next hother =>
    change (k, v) = (k, sanitizeUnder k v)
    unfold sanitizeUnder
    split
    · cases hother _ rfl
    · rfl

theorem all_sanitizeEntries (entries : List (Value × Value)) (p : Value → Bool) :
  (sanitizeEntries entries).all (fun e => p e.1) = entries.all fun e => p e.1
  := by
  rw [sanitizeEntries_eq, List.all_map]
  rfl

/-! ### Reading every field -/

variable {entries : List (Value × Value)} {c : Config}

/-- Each field of the configuration is read from the entries. -/
structure ReadFrom (entries : List (Value × Value)) (c : Config) : Prop where
  types : Field.get entries "types" default.types Field.texts = .ok c.types
  scopes : Field.get entries "scopes" default.scopes Field.texts = .ok c.scopes
  scopeRequired :
    Field.get entries "scope_required" default.scopeRequired Field.bool = .ok c.scopeRequired
  maxSubjectLength :
    Field.get entries "max_subject_length" default.maxSubjectLength Field.integer
      = .ok c.maxSubjectLength
  allowBreakingChanges :
    Field.get entries "allow_breaking_changes" default.allowBreakingChanges Field.bool
      = .ok c.allowBreakingChanges
  requireJiraTicket :
    Field.get entries "require_jira_ticket" default.requireJiraTicket Field.bool
      = .ok c.requireJiraTicket
  requireTicketRef :
    Field.get entries "require_ticket_ref" default.requireTicketRef Field.bool
      = .ok c.requireTicketRef
  jiraTicketPattern :
    Field.get entries "jira_ticket_pattern" default.jiraTicketPattern Field.optionalText
      = .ok c.jiraTicketPattern
  jiraProjects :
    Field.get entries "jira_projects" default.jiraProjects Field.texts = .ok c.jiraProjects
  customRules :
    Field.get entries "custom_rules" default.customRules (Field.items Field.customRule)
      = .ok c.customRules
  ignorePatterns :
    Field.get entries "ignore_patterns" default.ignorePatterns Field.texts = .ok c.ignorePatterns
  alwaysLog : Field.get entries "always_log" default.alwaysLog Field.bool = .ok c.alwaysLog
  logFile : Field.get entries "log_file" default.logFile Field.optionalText = .ok c.logFile

theorem ReadFrom.ofEntries_eq (h : ReadFrom entries c) :
  ofEntries entries = .ok c
  := by
  unfold ofEntries
  rw [h.types, h.scopes, h.scopeRequired, h.maxSubjectLength, h.allowBreakingChanges,
    h.requireJiraTicket, h.requireTicketRef, h.jiraTicketPattern, h.jiraProjects, h.customRules,
    h.ignorePatterns, h.alwaysLog, h.logFile]
  rfl

theorem readFrom_of_ofEntries (h : ofEntries entries = .ok c) :
  ReadFrom entries c
  := by
  unfold ofEntries at h
  simp only at h
  split at h
  · next hbuild =>
    obtain rfl := Except.ok.inj h
    obtain ⟨_, types, hbuild⟩ := exists_of_bind_eq_ok hbuild
    obtain ⟨_, scopes, hbuild⟩ := exists_of_bind_eq_ok hbuild
    obtain ⟨_, scopeRequired, hbuild⟩ := exists_of_bind_eq_ok hbuild
    obtain ⟨_, maxSubjectLength, hbuild⟩ := exists_of_bind_eq_ok hbuild
    obtain ⟨_, allowBreakingChanges, hbuild⟩ := exists_of_bind_eq_ok hbuild
    obtain ⟨_, requireJiraTicket, hbuild⟩ := exists_of_bind_eq_ok hbuild
    obtain ⟨_, requireTicketRef, hbuild⟩ := exists_of_bind_eq_ok hbuild
    obtain ⟨_, jiraTicketPattern, hbuild⟩ := exists_of_bind_eq_ok hbuild
    obtain ⟨_, jiraProjects, hbuild⟩ := exists_of_bind_eq_ok hbuild
    obtain ⟨_, customRules, hbuild⟩ := exists_of_bind_eq_ok hbuild
    obtain ⟨_, ignorePatterns, hbuild⟩ := exists_of_bind_eq_ok hbuild
    obtain ⟨_, alwaysLog, hbuild⟩ := exists_of_bind_eq_ok hbuild
    obtain ⟨_, logFile, hbuild⟩ := exists_of_bind_eq_ok hbuild
    obtain rfl := Except.ok.inj hbuild
    constructor <;> assumption
  · cases h

/-- The configuration, or what is wrong with it, depends on what is found under the keys alone. -/
theorem ofEntries_congr {entries' : List (Value × Value)}
    (h : ∀ key, Value.lookup key entries = Value.lookup key entries') :
  ofEntries entries = ofEntries entries'
  := by
  unfold ofEntries
  simp only [Field.get, h]

end Config

end CommitPolicy
