import CommitPolicy.Proofs.Config.Mishap
import CommitPolicy.Proofs.Config.Precedence

/-!
# Settings files that hold no mapping

What is loaded from a YAML file depends on the value that its document has:

* a mapping is read as settings;
* a value that counts as absent is taken for a mapping without entries, whatever kind of value it
  is, so that every field comes from the environment or has its default;
* every other value is rejected with a configuration error about the file.
-/

namespace CommitPolicy

namespace Value

/-- The values that count as absent without being null or a mapping. -/
inductive IsHollow : Value → Prop where
  | false : IsHollow (.bool false)
  | zero : IsHollow (.int 0)
  | float {x : Float} (hx : (x == 0) = true) : IsHollow (.float x)
  | text : IsHollow (.text "")
  | bytes : IsHollow (.bytes [])
  | list : IsHollow (.list [])
  | set : IsHollow (.set [])

theorem isVoid_iff (v : Value) :
  v.isVoid = true ↔ v = .null ∨ v = .map [] ∨ v.IsHollow
  := by
  constructor
  · intro h
    cases v with
    | null => exact .inl rfl
    | bool b =>
        obtain rfl : b = false := by simpa [isVoid] using h
        exact .inr (.inr .false)
    | int n =>
        obtain rfl : n = 0 := by simpa [isVoid] using h
        exact .inr (.inr .zero)
    | float x => exact .inr (.inr (.float h))
    | text s =>
        obtain rfl : s = "" := by simpa [isVoid] using h
        exact .inr (.inr .text)
    | bytes b =>
        obtain rfl : b = [] := by simpa [isVoid] using h
        exact .inr (.inr .bytes)
    | moment => cases h
    | list items =>
        obtain rfl : items = [] := by simpa [isVoid] using h
        exact .inr (.inr .list)
    | pair k v => cases h
    | set items =>
        obtain rfl : items = [] := by simpa [isVoid] using h
        exact .inr (.inr .set)
    | map entries =>
        obtain rfl : entries = [] := by simpa [isVoid] using h
        exact .inr (.inl rfl)
  · rintro (rfl | rfl | h)
    · rfl
    · rfl
    · cases h with
      | float hx => exact hx
      | _ => rfl

end Value

namespace Config

/-- The bytes of a file, which is in YAML, are a text whose document has the value `v`. -/
def HoldsYaml [ReadingLimits] (p : Path) (bytes : List UInt8) (v : Value) : Prop :=
  p.suffix ≠ ".toml" ∧ ∃ text, Text.decode? bytes = some text ∧ Source.documentOf p text = .ok v

theorem HoldsYaml.settings_eq [ReadingLimits] {p : Path} {bytes : List UInt8} {v : Value}
    (h : HoldsYaml p bytes v) :
  (Source.file p bytes).settings = .ok (if v.isVoid then .map [] else v)
  := by
  obtain ⟨hsuffix, text, htext, hdocument⟩ := h
  rw [Source.settings, Source.settingsOf, stop?_of_documentOf htext hdocument, htext]
  apply bind_eq_ok hdocument
  rw [if_neg hsuffix]

/-- Whatever settings there are, they are a mapping. -/
theorem map_build_ne_notMapping {env : Environment} {origin path : String}
    {entries : List (Value × Value)} (f : Config → LoadedConfig) :
  (build env origin entries).map f ≠ .error (.config (.notMapping path))
  := by
  rw [build]
  split
  · rintro ⟨⟩
  · split
    · rintro ⟨⟩
    · rintro ⟨⟩

section Load

variable [ReadingLimits] {s : Surroundings} {path directory : Option Path} {p : Path}
  {bytes : List UInt8} {v : Value} (hsource : Selects s path directory (.file p bytes))
  (hv : HoldsYaml p bytes v)
include hsource hv

theorem load_of_holdsYaml :
  load s path directory
    = (ofDocument s.environment p.text (if v.isVoid then .map [] else v)).map
      fun c => ⟨c, some p⟩
  := by
  rw [load_eq_outcome hsource, Source.outcome, hv.settings_eq]
  change (ofDocument s.environment p.text _ >>= _) = _
  cases ofDocument s.environment p.text _ with
  | error f => rfl
  | ok c => rfl

theorem load_of_isVoid (hvoid : v.isVoid = true) :
  load s path directory = (build s.environment p.text []).map fun c => ⟨c, some p⟩
  := by
  rw [load_of_holdsYaml hsource hv, if_pos hvoid]
  rfl

theorem load_of_map {entries : List (Value × Value)} (hmap : v = .map entries) :
  load s path directory
    = (build s.environment p.text (sanitizeEntries entries)).map fun c => ⟨c, some p⟩
  := by
  subst hmap
  rw [load_of_holdsYaml hsource hv]
  cases entries with
  | nil => rfl
  | cons e rest => rfl

theorem load_eq_notMapping_iff :
  load s path directory = .error (.config (.notMapping p.text)) ↔
    v ≠ .null ∧ (∀ entries, v ≠ .map entries) ∧ ¬v.IsHollow
  := by
  constructor
  · intro h
    have hvoid : ¬v.isVoid = true := by
      intro hvoid
      rw [load_of_isVoid hsource hv hvoid] at h
      apply map_build_ne_notMapping _ h
    rw [v.isVoid_iff, not_or, not_or] at hvoid
    refine ⟨hvoid.1, ?_, hvoid.2.2⟩
    intro entries hmap
    rw [load_of_map hsource hv hmap] at h
    apply map_build_ne_notMapping _ h
  · rintro ⟨hnull, hnot, hhollow⟩
    have hvoid : ¬v.isVoid = true := by
      rw [v.isVoid_iff]
      simp [hnull, hnot, hhollow]
    rw [load_of_holdsYaml hsource hv, if_neg hvoid]
    cases v with
    | map entries => cases hnot entries rfl
    | _ => rfl

/-- A YAML file is rejected as no mapping if and only if the value of its document is neither null
nor a mapping nor hollow.  If it is null or hollow, the file is read as one without settings: every
field comes from the environment or has its default.  If it is a mapping, it is read as settings. -/
theorem load_yaml_document :
  (∃ e : ConfigError, e.kind = .invalidFile
      ∧ e.message = "configuration in " ++ p.text ++ " must be a mapping of settings"
      ∧ (load s path directory = .error (.config e) ↔
        v ≠ .null ∧ (∀ entries, v ≠ .map entries) ∧ ¬v.IsHollow))
    ∧ (v = .null ∨ v.IsHollow →
      load s path directory = (build s.environment p.text []).map (fun c => ⟨c, some p⟩)
        ∧ ∀ loaded, load s path directory = .ok loaded →
          loaded.source = some p ∧ loaded.config.SettledBy [] s.environment)
    ∧ ∀ entries, v = .map entries →
      load s path directory
        = (build s.environment p.text (sanitizeEntries entries)).map fun c => ⟨c, some p⟩
  := by
  refine ⟨⟨.notMapping p.text, rfl, rfl, load_eq_notMapping_iff hsource hv⟩, ?_, ?_⟩
  · intro h
    have hvoid : v.isVoid = true := v.isVoid_iff.mpr (h.imp_right Or.inr)
    use load_of_isVoid hsource hv hvoid
    intro loaded hloaded
    rw [load_eq_outcome hsource] at hloaded
    obtain ⟨hpath, entries, hsettings, hsettled⟩ := settledBy_of_outcome hloaded
    rw [hv.settings_eq, if_pos hvoid] at hsettings
    obtain rfl := Value.map.inj (Except.ok.inj hsettings)
    exact ⟨hpath, hsettled⟩
  · intro entries
    apply load_of_map hsource hv

end Load

/-- Whether the file has a YAML document with the value `v`. -/
def reads [ReadingLimits] (p : Path) (text : String) (v : Value) : Bool :=
  match Source.documentOf p text with
  | .ok w => w.same v
  | .error _ => false

theorem HoldsYaml.of_test [ReadingLimits] {p : Path} {text : String} {v : Value}
    (hsuffix : p.suffix ≠ ".toml") (h : reads p text v = true) :
  HoldsYaml p (Text.encode text) v
  := by
  refine ⟨hsuffix, text, Text.decode?_encode text, ?_⟩
  unfold reads at h
  split at h
  · next w hw => rw [hw, Value.eq_of_same h]
  · cases h

/-- A file with a list of one item, and a file with an empty list. -/
def listing : Surroundings where
  files :=
    ⟨[(["full.yaml"], .file (Text.encode "- x\n")), (["empty.yaml"], .file (Text.encode "[]\n"))],
      ⟨"/", []⟩⟩
  home := ⟨"/", []⟩
  environment := []

theorem load_yaml_document_listing :
  (∃ e, load listing (some ⟨"", ["full.yaml"]⟩) none = .error (.config e) ∧ e.kind = .invalidFile
      ∧ e.message = "configuration in full.yaml must be a mapping of settings")
    ∧ load listing (some ⟨"", ["empty.yaml"]⟩) none
      = .ok ⟨default, some ⟨"", ["empty.yaml"]⟩⟩
  := by
  constructor
  · have hv : HoldsYaml ⟨"", ["full.yaml"]⟩ (Text.encode "- x\n") (.list [.text "x"]) :=
      .of_test (by decide) (by decide +kernel)
    have hsource : Selects listing (some ⟨"", ["full.yaml"]⟩) none
        (.file ⟨"", ["full.yaml"]⟩ (Text.encode "- x\n")) := ⟨_, rfl, rfl⟩
    obtain ⟨⟨e, hkind, hmessage, he⟩, -⟩ := load_yaml_document hsource hv
    refine ⟨e, he.mpr ⟨nofun, nofun, nofun⟩, hkind, hmessage⟩
  · have hv : HoldsYaml ⟨"", ["empty.yaml"]⟩ (Text.encode "[]\n") (.list []) :=
      .of_test (by decide) (by decide +kernel)
    have hsource : Selects listing (some ⟨"", ["empty.yaml"]⟩) none
        (.file ⟨"", ["empty.yaml"]⟩ (Text.encode "[]\n")) := ⟨_, rfl, rfl⟩
    obtain ⟨-, hhollow, -⟩ := load_yaml_document hsource hv
    rw [(hhollow (.inr .list)).1]
    rfl

end Config

end CommitPolicy
