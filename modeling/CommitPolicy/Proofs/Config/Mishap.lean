import CommitPolicy.Proofs.Config.Fields
import CommitPolicy.Proofs.Config.Source
import CommitPolicy.Proofs.Yaml.Trouble

/-!
# Failures to load a configuration

Loading a configuration gives one, or fails with a configuration error about a file.  There are
mishaps, too, that are no configuration errors:

* a file is not encoded as text;
* something in its document is misread, or it is nested too deeply, be it in the pieces that are
  read before one that cannot be read;
* a TOML document has tools that are no table;
* a setting has a name that no setting can have.

Nothing else goes wrong, and none of these ends in any other way.
-/

namespace CommitPolicy

/-- The failure is a configuration error about a file. -/
def Failure.IsFileError (f : Failure) : Prop :=
  ∃ e : ConfigError, f = .config e ∧ e.kind = .invalidFile

theorem Failure.IsUnread.ne_config {f : Failure} (h : f.IsUnread) (e : ConfigError) :
  f ≠ .config e
  := by
  rcases h with h | rfl
  · rintro rfl
    cases h
  · rintro ⟨⟩

/-- Reading a TOML document fails for its notation, or because a numeral in it is too long or the
document is nested too deeply. -/
theorem Toml.readDocument_error_cases [ReadingLimits] {path text : String} {f : Failure}
    (h : Toml.readDocument path text = .error f) :
  (∃ detail, f = .config (.malformedToml path detail)) ∨ f.IsUnread
  := by
  rw [Toml.readDocument] at h
  split at h
  · obtain rfl := Except.error.inj h
    exact .inr (.inr rfl)
  dsimp only at h
  split at h
  · cases h
  · next fault _ =>
    obtain rfl := Except.error.inj h
    cases fault with
    | «at» problem left => exact .inl ⟨_, rfl⟩
    | tooManyDigits n => exact .inr (.inl (.argument _))

namespace Config

namespace Source

variable [ReadingLimits]

/-- What goes wrong with a source without being a configuration error. -/
inductive Mishap : Source → Failure → Prop where
  | early {p : Path} {bytes : List UInt8} {f : Failure} (hstop : stop? p bytes = some f)
      (hf : f.IsUnread) : Mishap (.file p bytes) f
  | undecodable {p : Path} {bytes : List UInt8} (hstop : stop? p bytes = none)
      (htext : Text.decode? bytes = none) : Mishap (.file p bytes) .undecodable
  | unread {p : Path} {bytes : List UInt8} {text : String} {f : Failure}
      (hstop : stop? p bytes = none) (htext : Text.decode? bytes = some text)
      (hdocument : documentOf p text = .error f) (hf : f.IsUnread) : Mishap (.file p bytes) f
  | notTable {p : Path} {bytes : List UInt8} {text : String} {v tools : Value}
      (hsuffix : p.suffix = ".toml") (htext : Text.decode? bytes = some text)
      (hdocument : documentOf p text = .ok v) (htools : v.get? "tool" = some tools)
      (hnot : ∀ entries, tools ≠ .map entries) : Mishap (.file p bytes) .notTable
  | badName {source : Source} {entries : List (Value × Value)}
      (hsettings : source.settings = .ok (.map entries))
      (hnames : entries.all (fun e => isSettingName e.1) = false) : Mishap source .badSettingName

theorem stop?_cases {p : Path} {bytes : List UInt8} {f : Failure} (h : stop? p bytes = some f) :
  f.IsFileError ∨ f.IsUnread
  := by
  rw [stop?] at h
  split at h
  · cases h
  · obtain ⟨stop, -, rfl⟩ := Option.map_eq_some_iff.mp h
    apply (stop.failure_cases p.text).imp_left
    rintro ⟨detail, hdetail⟩
    exact ⟨_, hdetail, rfl⟩

/-- A YAML file whose text is nested too deeply comes to a mishap. -/
theorem mishap_of_exhaustsYaml {p : Path} {bytes : List UInt8} {text : String}
    (hsuffix : p.suffix ≠ ".toml") (hstop : earlyStop? bytes = none)
    (htext : Text.decode? bytes = some text)
    (hdeep : ReadingLimits.exhaustsYaml (String.ofList (Text.universalNewlines text.toList))
      = true) :
  Mishap (.file p bytes) .tooDeep
  := by
  apply Mishap.unread _ htext _ (.inr rfl)
  · rw [stop?, if_neg hsuffix, hstop]
    rfl
  · rw [documentOf, if_neg hsuffix, Yaml.readDocument, if_pos hdeep]

theorem documentOf_error_cases {p : Path} {text : String} {f : Failure}
    (h : documentOf p text = .error f) :
  f.IsFileError ∨ f.IsUnread
  := by
  rw [documentOf] at h
  split at h
  · rcases Toml.readDocument_error_cases h with ⟨detail, rfl⟩ | hf
    · exact .inl ⟨_, rfl, rfl⟩
    · exact .inr hf
  · rcases Yaml.readDocument_error_cases h with ⟨detail, rfl⟩ | hf
    · exact .inl ⟨_, rfl, rfl⟩
    · exact .inr hf

end Source

/-! ### The settings of a source -/

theorem tomlSettings_error_cases {v : Value} {f : Failure} (h : tomlSettings v = .error f) :
  f = .notTable ∧ ∃ tools, v.get? "tool" = some tools ∧ ∀ entries, tools ≠ .map entries
  := by
  rw [tomlSettings] at h
  split at h
  · next tools htools =>
    cases tools with
    | map entries => cases h
    | _ =>
        obtain rfl := Except.error.inj h
        refine ⟨rfl, _, htools, ?_⟩
        rintro entries ⟨⟩
  · cases h

theorem tomlSettings_eq_notTable {v tools : Value} (htools : v.get? "tool" = some tools)
    (hnot : ∀ entries, tools ≠ .map entries) :
  tomlSettings v = .error .notTable
  := by
  rw [tomlSettings, htools]
  cases tools with
  | map entries => cases hnot entries rfl
  | _ => rfl

section Settings

variable [ReadingLimits] {f : Failure}

theorem settings_error_cases {source : Source} (h : source.settings = .error f) :
  f.IsFileError ∨ source.Mishap f
  := by
  cases source with
  | nothing => cases h
  | file p bytes =>
      rw [Source.settings, Source.settingsOf] at h
      split at h
      · next f' hstop =>
        obtain rfl := Except.error.inj h
        apply (Source.stop?_cases hstop).imp_right
        exact fun hf => .early hstop hf
      · next hstop htext =>
        obtain rfl := Except.error.inj h
        exact .inr (.undecodable hstop htext)
      · next text hstop htext =>
        rcases or_exists_of_bind_eq_error h with hdocument | ⟨v, hdocument, h⟩
        · apply (Source.documentOf_error_cases hdocument).imp_right
          exact fun hf => .unread hstop htext hdocument hf
        · split at h
          · next hsuffix =>
            obtain ⟨rfl, tools, htools, hnot⟩ := tomlSettings_error_cases h
            exact .inr (.notTable hsuffix htext hdocument htools hnot)
          · cases h

end Settings

/-! ### What a source comes to -/

theorem ofDocument_error_cases {env : Environment} {path : String} {v : Value} {f : Failure}
    (h : ofDocument env path v = .error f) :
  f.IsFileError
    ∨ f = .badSettingName ∧ ∃ entries, v = .map entries
      ∧ entries.all (fun e => isSettingName e.1) = false
  := by
  cases v with
  | map entries =>
      rw [ofDocument, build, all_sanitizeEntries] at h
      split at h
      · next hnames =>
        obtain rfl := Except.error.inj h
        exact .inr ⟨rfl, entries, rfl, by simpa using hnames⟩
      · split at h
        · cases h
        · obtain rfl := Except.error.inj h
          exact .inl ⟨_, rfl, rfl⟩
  | _ =>
      obtain rfl := Except.error.inj h
      exact .inl ⟨_, rfl, rfl⟩

section Outcome

variable [ReadingLimits] {source : Source} {env : Environment} {f : Failure}

/-- A source comes to a configuration, to a configuration error about a file, or to a mishap. -/
theorem outcome_error_cases (h : source.outcome env = .error f) :
  f.IsFileError ∨ source.Mishap f
  := by
  rcases or_exists_of_bind_eq_error h with hsettings | ⟨v, hsettings, h⟩
  · apply settings_error_cases hsettings
  · rcases or_exists_of_bind_eq_error h with hdocument | ⟨c, -, h⟩
    · apply (ofDocument_error_cases hdocument).imp_right
      rintro ⟨rfl, entries, rfl, hnames⟩
      exact .badName hsettings hnames
    · cases h

theorem Source.Mishap.ne_config (h : source.Mishap f) (e : ConfigError) :
  f ≠ .config e
  := by
  cases h with
  | early _ hf => apply hf.ne_config
  | unread _ _ _ hf => apply hf.ne_config
  | _ => rintro ⟨⟩

/-- A mishap is what a source comes to in every environment. -/
theorem Source.Mishap.outcome_eq (h : source.Mishap f) (env : Environment) :
  source.outcome env = .error f
  := by
  cases h with
  | early hstop =>
      rw [Source.outcome, Source.settings, Source.settingsOf, hstop]
      rfl
  | undecodable hstop htext =>
      rw [Source.outcome, Source.settings, Source.settingsOf, hstop, htext]
      rfl
  | unread hstop htext hdocument =>
      rw [Source.outcome, Source.settings, Source.settingsOf, hstop, htext]
      simp only [hdocument]
      rfl
  | notTable hsuffix htext hdocument htools hnot =>
      rw [Source.outcome, Source.settings, Source.settingsOf, Source.stop?, if_pos hsuffix, htext]
      simp only [hdocument]
      simp only [if_pos hsuffix]
      change ((tomlSettings _) >>= _) = _
      rw [tomlSettings_eq_notTable htools hnot]
      rfl
  | badName hsettings hnames =>
      rw [Source.outcome, hsettings]
      change (ofDocument env source.origin _ >>= _) = _
      rw [ofDocument, build, all_sanitizeEntries, hnames]
      rfl

end Outcome

/-! ### Loading -/

section Load

variable [ReadingLimits]

/-- The source that a configuration is loaded from: the file that is asked for, or the one that
comes first in a directory. -/
def Selects (s : Surroundings) (path directory : Option Path) (source : Source) : Prop :=
  match path with
  | some p => ∃ bytes, s.files.find? p = some (.file bytes) ∧ source = .file p bytes
  | none => FirstOf s.files (candidates s (directory.getD s.files.workingDirectory)) source

theorem load_eq_outcome {s : Surroundings} {path directory : Option Path} {source : Source}
    (h : Selects s path directory source) :
  load s path directory = source.outcome s.environment
  := by
  cases path with
  | some p =>
      obtain ⟨bytes, hfile, rfl⟩ := h
      rw [load, if_pos (FileTree.isFile_eq_true_iff.mpr ⟨_, hfile⟩)]
      apply ofFile_eq_outcome hfile
  | none => apply loadIn_eq_outcome h

/-- Without a source, the file that is asked for is not there. -/
theorem exists_selects_or_isFileError (s : Surroundings) (path directory : Option Path) :
  (∃ source, Selects s path directory source)
    ∨ ∃ f, load s path directory = .error f ∧ f.IsFileError
  := by
  cases path with
  | none => exact .inl (exists_firstOf _ _)
  | some p =>
      by_cases hfile : s.files.isFile p = true
      · obtain ⟨bytes, hfind⟩ := FileTree.isFile_eq_true_iff.mp hfile
        exact .inl ⟨_, bytes, hfind, rfl⟩
      · apply Or.inr
        use .config (.notFound p.text)
        rw [load, if_neg hfile]
        exact ⟨rfl, _, rfl, rfl⟩

theorem load_error_cases {s : Surroundings} {path directory : Option Path} {f : Failure}
    (h : load s path directory = .error f) :
  f.IsFileError ∨ ∃ source, Selects s path directory source ∧ source.Mishap f
  := by
  rcases exists_selects_or_isFileError s path directory with ⟨source, hsource⟩ | ⟨f', h', hf⟩
  · rw [load_eq_outcome hsource] at h
    apply (outcome_error_cases h).imp_right
    exact fun hmishap => ⟨source, hsource, hmishap⟩
  · rw [h] at h'
    obtain rfl := Except.error.inj h'
    exact .inl hf

end Load

end Config

end CommitPolicy
