import CommitPolicy.Config.Load
import CommitPolicy.Proofs.Config.Fields
import CommitPolicy.Proofs.Config.Source
import CommitPolicy.Proofs.Files.Tree
import CommitPolicy.Proofs.Text.Utf8
import CommitPolicy.Proofs.Yaml.Restored
import CommitPolicy.Proofs.Yaml.Writer

/-!
# Loading a configuration that was saved

A configuration that is saved in a file and loaded from it comes back with every field as it was,
but for two.  A ticket pattern that is not there, and a log file that is not there or outside the
working directory, have no entry in the document, so they are read from the environment; and a log
file is sanitized when it is read.

That reading a YAML document inverts writing it is an assumption, made of the saved document alone.
-/

namespace CommitPolicy

namespace Config

variable {c : Config} {entries : List (Value × Value)} {key : String} {v : Value}

/-! ### The saved entries -/

/-- The entry of a ticket pattern is not in the way of the others. -/
theorem lookup_entries_of_ne (h : key ≠ "jira_ticket_pattern") :
  Value.lookup key c.entries = Value.lookup key { c with jiraTicketPattern := none }.entries
  := by
  simp only [Config.entries, textEntry, Value.lookup_append, Value.lookup_toList, if_neg h.symm]

theorem lookup_jiraTicketPattern (c : Config) :
  Value.lookup "jira_ticket_pattern" c.entries = c.jiraTicketPattern.map .text
  := by
  simp only [Config.entries, textEntry, Value.lookup_append, Value.lookup_toList]
  change ((none.or (c.jiraTicketPattern.map Value.text)).or none).or none = _
  rw [Option.none_or, Option.or_none, Option.or_none]

theorem lookup_logFile (c : Config) :
  Value.lookup "log_file" c.entries = (c.logFile.filter keepsLogFile).map .text
  := by
  simp only [Config.entries, textEntry, Value.lookup_append, Value.lookup_toList]
  rfl

/-- The names of the fields are names of settings. -/
theorem all_isSettingName (c : Config) :
  c.entries.all (fun e => isSettingName e.1) = true
  := by
  rw [Config.entries]
  cases c.jiraTicketPattern with
  | none =>
      cases c.logFile.filter keepsLogFile with
      | none => rfl
      | some file => rfl
  | some pattern =>
      cases c.logFile.filter keepsLogFile with
      | none => rfl
      | some file => rfl

/-! ### Reading the saved entries -/

/-- The configuration that is read back: a ticket pattern or a log file that was not saved is taken
from the environment, and the log file is sanitized. -/
def reread (c : Config) (env : Environment) : Config :=
  { c with
    jiraTicketPattern := c.jiraTicketPattern.or (env.lookup "FAST_CC_JIRA_TICKET_PATTERN")
    logFile := ((c.logFile.filter keepsLogFile).or (env.lookup "FAST_CC_LOG_FILE")).map sanitize }

section Saved

variable (c : Config) (env : Environment)

/-- A field that is always saved does not depend on the environment. -/
theorem get_saved {α : Type} {v : Value} {a : α} (hlog : key ≠ "log_file")
    (hpattern : key ≠ "jira_ticket_pattern")
    (hv : Value.lookup key { c with jiraTicketPattern := none }.entries = some v) (default : α)
    {read : List String → Value → Field α} (hread : read [key] v = .ok a) :
  Field.get (sanitizeEntries c.entries ++ environmentEntries env) key default read = .ok a
  := by
  have hfound : Value.lookup key (sanitizeEntries c.entries ++ environmentEntries env)
      = some v := by
    rw [Value.lookup_append, sanitizeEntries_eq, Value.lookup_map, lookup_entries_of_ne hpattern,
      hv, Option.map_some, sanitizeUnder_of_ne hlog, Option.some_or]
  rw [Field.get_of_lookup hfound, hread]

theorem get_jiraTicketPattern :
  Field.get (sanitizeEntries c.entries ++ environmentEntries env) "jira_ticket_pattern" none
      Field.optionalText
    = .ok (c.reread env).jiraTicketPattern
  := by
  have hvariable : ("FAST_CC_JIRA_TICKET_PATTERN", "jira_ticket_pattern", VariableForm.plain)
      ∈ settingVariables := by
    decide
  apply Field.get_optionalText
  rw [Value.lookup_append, sanitizeEntries_eq, Value.lookup_map, lookup_jiraTicketPattern,
    lookup_environmentEntries env hvariable, reread, Option.map_or, Option.map_map]
  rfl

theorem get_logFile :
  Field.get (sanitizeEntries c.entries ++ environmentEntries env) "log_file" none
      Field.optionalText
    = .ok (c.reread env).logFile
  := by
  have hvariable : ("FAST_CC_LOG_FILE", "log_file", VariableForm.sanitized)
      ∈ settingVariables := by
    decide
  apply Field.get_optionalText
  rw [Value.lookup_append, sanitizeEntries_eq, Value.lookup_map, lookup_logFile,
    lookup_environmentEntries env hvariable, reread, Option.map_or, Option.map_or, Option.map_map,
    Option.map_map, Option.map_map]
  rfl

/-- Every field is read back, whatever the environment sets. -/
theorem readFrom_saved :
  ReadFrom (sanitizeEntries c.entries ++ environmentEntries env) (c.reread env)
  := by
  constructor
  case types => apply get_saved c env (by decide) (by decide) rfl _ (Field.texts_list _ _)
  case scopes => apply get_saved c env (by decide) (by decide) rfl _ (Field.texts_list _ _)
  case jiraProjects => apply get_saved c env (by decide) (by decide) rfl _ (Field.texts_list _ _)
  case ignorePatterns => apply get_saved c env (by decide) (by decide) rfl _ (Field.texts_list _ _)
  case customRules =>
    apply get_saved c env (by decide) (by decide) rfl _ (Field.customRules_list _ _)
  case jiraTicketPattern => apply get_jiraTicketPattern
  case logFile => apply get_logFile
  -- truth values and an integer
  all_goals apply get_saved c env (by decide) (by decide) rfl _ rfl

theorem ofDocument_entries (path : String) :
  ofDocument env path (.map c.entries) = .ok (c.reread env)
  := by
  rw [ofDocument, build, all_sanitizeEntries, all_isSettingName,
    (readFrom_saved c env).ofEntries_eq]
  rfl

end Saved

/-! ### Saving and loading -/

/-- A document that was encoded and written with plain line ends is read as it was written. -/
theorem readYaml_of_read [ReadingLimits] {files : FileTree} {p : Path} {text : String}
    (hread : files.read p = .ok (Text.encode text)) (hlines : Yaml.Simple text.toList)
    (hyaml : Yaml.readDocument p.text text = .ok v) :
  readYaml files p = .ok (if v.isVoid then .map [] else v)
  := by
  have htext := Text.decode?_encode text
  have hlines : String.ofList (Text.universalNewlines text.toList) = text := by
    rw [Yaml.universalNewlines_of_simple hlines, String.ofList_toList]
  have hyaml : Yaml.readDocument p.text (String.ofList (Text.universalNewlines text.toList))
      = .ok v := by
    rw [hlines, hyaml]
  rw [readYaml]
  apply bind_eq_ok hread
  rw [earlyStop?_of_readDocument htext hyaml, textOf, htext]
  apply bind_eq_ok hyaml
  rfl

theorem ofFile_of_readYaml [ReadingLimits] {s : Surroundings} {p : Path}
    (hsuffix : p.suffix ≠ ".toml")
    (hread : readYaml s.files p = .ok v) (hdocument : ofDocument s.environment p.text v = .ok c) :
  ofFile s p = .ok ⟨c, some p⟩
  := by
  rw [ofFile, if_neg hsuffix]
  apply bind_eq_ok hread
  apply bind_eq_ok hdocument
  rfl

/-- Nothing changes if the environment sets no ticket pattern and no log file, and sanitizing keeps
the log file. -/
theorem reread_eq_self {env : Environment}
    (hpattern : env.lookup "FAST_CC_JIRA_TICKET_PATTERN" = none)
    (hlog : env.lookup "FAST_CC_LOG_FILE" = none)
    (hsafe : ∀ file ∈ c.logFile, isSafePath file = true ∧ sanitize file = file) :
  c.reread env = c
  := by
  have hfile : (c.logFile.filter keepsLogFile).map sanitize = c.logFile := by
    cases hfile : c.logFile with
    | none => rfl
    | some file =>
        obtain ⟨hpath, hsame⟩ := hsafe file hfile
        have hkeep : keepsLogFile file = true := by rw [keepsLogFile, hpath, Bool.or_true]
        rw [Option.filter_some, if_pos hkeep, Option.map_some, hsame]
  rw [reread, hpattern, hlog, Option.or_none, Option.or_none, hfile]

/-- A configuration that is saved where a file can be written is loaded from there, whatever the
environment holds and however malformed it is.  It is the same configuration if the environment sets
no ticket pattern and no log file, and the log file is safe and clean. -/
theorem load_save [ReadingLimits] (c : Config) (s : Surroundings) (p : Path)
    (directory : Option Path) (hsuffix : p.suffix ≠ ".toml") (hwrite : s.files.CanWrite p)
    (hyaml : Yaml.Restores p.text c.entries) :
  ∃ files, c.save s.files p = .ok files
    ∧ load { s with files := files } (some p) directory
      = .ok ⟨c.reread s.environment, some p⟩
    ∧ (s.environment.lookup "FAST_CC_JIRA_TICKET_PATTERN" = none →
      s.environment.lookup "FAST_CC_LOG_FILE" = none →
      (∀ file ∈ c.logFile, isSafePath file = true ∧ sanitize file = file) →
      c.reread s.environment = c)
  := by
  obtain ⟨made, bytes, after, hmade, hafter⟩ := hwrite
  obtain ⟨names, hlocate, hnames⟩ := FileTree.exists_of_write hafter
  have hwritten := FileTree.write_of_locate hlocate hnames
  obtain ⟨hfile, hread⟩ := FileTree.read_put hlocate hnames
    (Text.encode (Yaml.writeMapping c.entries))
  have hyaml := readYaml_of_read hread (Yaml.simple_writeMapping c.entries) hyaml
  have hdocument := ofDocument_entries c s.environment p.text
  use made.put names (.file (Text.encode (Yaml.writeMapping c.entries)))
  constructor
  · rw [save]
    apply bind_eq_ok hmade (hwritten _)
  constructor
  · rw [load, if_pos hfile]
    exact ofFile_of_readYaml hsuffix hyaml hdocument
  · apply reread_eq_self

/-- One type of commits, a rule of the team and a log file. -/
def logged : Config :=
  { default with
    types := ["feat"]
    customRules := [⟨"wip", "^(?!wip)", "no work in progress"⟩]
    logFile := some "commits.log" }

theorem restores_logged :
  Yaml.Restores "settings/policy.yaml" logged.entries
  := by
  apply Yaml.Restores.of_test
  have hne : ¬logged.entries.isEmpty = true := Bool.false_ne_true
  -- The characters are read as they were written, since making them a text takes longer.
  rw [Yaml.restores, Yaml.writeMapping, if_neg hne, Yaml.readDocument, String.toList_ofList]
  decide +kernel

/-- A malformed variable is no trouble, and the directory of the file is made. -/
theorem load_save_logged :
  let home : Path := ⟨"/", ["work"]⟩
  let s : Surroundings :=
    ⟨⟨[(["work"], .directory)], home⟩, home, [("FAST_CC_MAX_SUBJECT_LENGTH", "many")]⟩
  let p : Path := ⟨"", ["settings", "policy.yaml"]⟩
  ∃ files, logged.save s.files p = .ok files
    ∧ load { s with files := files } (some p) none = .ok ⟨logged, some p⟩
  := by
  intro home s p
  have hwrite : s.files.CanWrite p := by
    let made : FileTree := ⟨[(["work"], .directory), (["work", "settings"], .directory)], home⟩
    use made, [], made.put ["work", "settings", "policy.yaml"] (.file [])
    constructor
    · rfl
    · rfl
  obtain ⟨files, hsave, hload, hsame⟩ :=
    load_save logged s p none (by decide) hwrite restores_logged
  use files, hsave
  have hfile : ∀ file ∈ logged.logFile, isSafePath file = true ∧ sanitize file = file := by
    rintro file ⟨⟩
    decide
  rw [hload, hsame rfl rfl hfile]

end Config

end CommitPolicy
