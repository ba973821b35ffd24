import CommitPolicy.Config.Load
import CommitPolicy.Proofs.Failure
import Mathlib.Tactic.Use

/-!
# Where a configuration comes from

The source of a configuration is a file, with its bytes, or nothing.  It is shown that

* in every directory exactly one source comes first;
* the configuration that is loaded there is made from that source and the environment, whatever else
  there is.
-/

namespace CommitPolicy

namespace FileTree

variable {files : FileTree} {p : Path} {bytes : List UInt8}

theorem isFile_eq_true_iff :
  files.isFile p = true ↔ ∃ bytes, files.find? p = some (.file bytes)
  := by
  rw [isFile]
  split
  · next bytes h => simp [h]
  · next h => simpa using h

theorem not_isFile (h : ∀ bytes, files.find? p ≠ some (.file bytes)) :
  ¬files.isFile p = true
  := by
  rw [isFile_eq_true_iff, not_exists]
  apply h

theorem read_of_find? (h : files.find? p = some (.file bytes)) :
  files.read p = .ok bytes
  := by
  rw [find?] at h
  split at h
  · next names hnames =>
    rw [read]
    apply bind_eq_ok hnames
    rw [h]
  · cases h

end FileTree

namespace Config

/-- What a configuration is made from besides the environment: a file, or nothing. -/
inductive Source where
  | file (p : Path) (bytes : List UInt8)
  | nothing

namespace Source

variable [ReadingLimits]

/-- The file, if there is one. -/
def path? : Source → Option Path
  | file p _ => some p
  | nothing => none

/-- How the source is named in errors. -/
def origin : Source → String
  | file p _ => p.text
  | nothing => environmentName

/-- The value of the document in the text of a file, which is in TOML if its name says so, and
otherwise in YAML. -/
def documentOf (p : Path) (text : String) : Except Failure Value :=
  if p.suffix = ".toml" then Toml.readDocument p.text text
  else Yaml.readDocument p.text (String.ofList (Text.universalNewlines text.toList))

/-- What stops the reader of a file before it comes to what it cannot read; a file in TOML is
decoded as a whole. -/
def stop? (p : Path) (bytes : List UInt8) : Option Failure :=
  if p.suffix = ".toml" then none else (earlyStop? bytes).map fun stop => stop.failure p.text

/-- The value of the settings in the bytes of a file. -/
def settingsOf (p : Path) (bytes : List UInt8) : Except Failure Value :=
  match stop? p bytes, Text.decode? bytes with
  | some f, _ => .error f
  | none, none => .error .undecodable
  | none, some text => do
    let v ← documentOf p text
    if p.suffix = ".toml" then tomlSettings v else .ok (if v.isVoid then .map [] else v)

/-- The value of the settings of a source. -/
def settings : Source → Except Failure Value
  | file p bytes => settingsOf p bytes
  | nothing => .ok (.map [])

/-- The configuration that is made from the source and an environment. -/
def outcome (source : Source) (env : Environment) : Except Failure LoadedConfig := do
  .ok ⟨← ofDocument env source.origin (← source.settings), source.path?⟩

end Source

/-! ### Documents that are read to their end -/

theorem characterFault?_of_readDocument [ReadingLimits] {path text : String} {v : Value}
    (h : Yaml.readDocument path text = .ok v) :
  Yaml.characterFault? text.toList = none
  := by
  rw [Yaml.readDocument] at h
  split at h
  · cases h
  cases hfault : Yaml.characterFault? text.toList with
  | none => rfl
  | some f =>
      rw [Yaml.Node.ofText, hfault] at h
      cases h

section ReadToTheEnd

variable [ReadingLimits] {bytes : List UInt8} {text : String} {v : Value}
  (htext : Text.decode? bytes = some text)
include htext

/-- A YAML document that has a value is read to its end. -/
theorem earlyStop?_of_readDocument {path : String}
    (h : Yaml.readDocument path (String.ofList (Text.universalNewlines text.toList)) = .ok v) :
  earlyStop? bytes = none
  := by
  have hfault := characterFault?_of_readDocument h
  rw [String.toList_ofList] at hfault
  have hreadable : isReadable bytes = true := by
    rw [isReadable, htext]
    simp only [hfault, Option.isNone_none]
  rw [earlyStop?, if_pos hreadable]

theorem stop?_of_documentOf {p : Path} (h : Source.documentOf p text = .ok v) :
  Source.stop? p bytes = none
  := by
  rw [Source.documentOf] at h
  rw [Source.stop?]
  split
  · rfl
  · next hsuffix =>
    rw [if_neg hsuffix] at h
    rw [earlyStop?_of_readDocument htext h]
    rfl

end ReadToTheEnd

/-! ### Reading a source -/

section Reading

variable [ReadingLimits] {files : FileTree} {p : Path} {bytes : List UInt8}
  (hfile : files.find? p = some (.file bytes))
include hfile

theorem readToml_of_find? :
  readToml files p = (textOf bytes >>= Toml.readDocument p.text)
  := by
  rw [readToml, FileTree.read_of_find? hfile]
  rfl

theorem readToml_eq_settingsOf (hsuffix : p.suffix = ".toml") :
  (readToml files p >>= tomlSettings) = Source.settingsOf p bytes
  := by
  rw [readToml_of_find? hfile, Source.settingsOf, Source.stop?, if_pos hsuffix, textOf]
  cases Text.decode? bytes with
  | none => rfl
  | some text =>
      simp only [Source.documentOf, if_pos hsuffix]
      rfl

theorem readYaml_eq_settingsOf (hsuffix : p.suffix ≠ ".toml") :
  readYaml files p = Source.settingsOf p bytes
  := by
  rw [readYaml, FileTree.read_of_find? hfile, Source.settingsOf, Source.stop?, if_neg hsuffix]
  dsimp only [bind, Except.bind]
  cases earlyStop? bytes with
  | some stop => rfl
  | none =>
      dsimp only [textOf]
      cases Text.decode? bytes with
      | none => rfl
      | some text =>
          simp only [Source.documentOf, if_neg hsuffix]
          rfl

end Reading

/-- What is read from a file depends on its bytes alone. -/
theorem ofFile_eq_outcome [ReadingLimits] {s : Surroundings} {p : Path} {bytes : List UInt8}
    (h : s.files.find? p = some (.file bytes)) :
  ofFile s p = (Source.file p bytes).outcome s.environment
  := by
  rw [ofFile, Source.outcome, Source.settings]
  split
  · next hsuffix =>
    rw [← readToml_eq_settingsOf h hsuffix, bind_assoc]
    rfl
  · next hsuffix =>
    rw [readYaml_eq_settingsOf h hsuffix]
    rfl

/-! ### The source that comes first -/

/-- A file that can be the source of a configuration, if it is there and has suitable bytes. -/
structure Candidate where
  path : Path
  applies : List UInt8 → Prop

/-- The first of the files that is there and has suitable bytes, or else nothing. -/
inductive FirstOf (files : FileTree) : List Candidate → Source → Prop where
  | here {c : Candidate} {rest : List Candidate} {bytes : List UInt8}
      (hfile : files.find? c.path = some (.file bytes)) (happlies : c.applies bytes) :
      FirstOf files (c :: rest) (.file c.path bytes)
  | later {c : Candidate} {rest : List Candidate} {source : Source}
      (hnot : ∀ bytes, files.find? c.path = some (.file bytes) → ¬c.applies bytes)
      (hrest : FirstOf files rest source) : FirstOf files (c :: rest) source
  | nothing : FirstOf files [] .nothing

theorem FirstOf.unique {files : FileTree} {cs : List Candidate} {source other : Source}
    (h : FirstOf files cs source) (h' : FirstOf files cs other) :
  other = source
  := by
  induction h with
  | here hfile happlies =>
      cases h' with
      | here hfile' => rw [Entry.file.inj (Option.some.inj (hfile'.symm.trans hfile))]
      | later hnot => cases hnot _ hfile happlies
  | later hnot _ ih =>
      cases h' with
      | here hfile happlies => cases hnot _ hfile happlies
      | later _ hrest => apply ih hrest
  | nothing =>
      cases h'
      rfl

theorem exists_firstOf (files : FileTree) (cs : List Candidate) :
  ∃ source, FirstOf files cs source
  := by
  induction cs with
  | nil => use .nothing, .nothing
  | cons c rest ih =>
      by_cases h : ∃ bytes, files.find? c.path = some (.file bytes) ∧ c.applies bytes
      · obtain ⟨bytes, hfile, happlies⟩ := h
        use .file c.path bytes, .here hfile happlies
      · obtain ⟨source, hrest⟩ := ih
        use source
        apply FirstOf.later _ hrest
        intro bytes hfile happlies
        exact h ⟨bytes, hfile, happlies⟩

/-- A project file is passed over if it is a TOML document without a section for the program. -/
def IsPassedOver [ReadingLimits] (p : Path) (bytes : List UInt8) : Prop :=
  ∃ text v, Text.decode? bytes = some text ∧ Toml.readDocument p.text text = .ok v
    ∧ ∀ tools, v.get? "tool" = some tools →
      ∃ entries, tools = .map entries ∧ Value.lookup sectionName entries = none

/-- The settings file of a directory. -/
def settingsPath (directory : Path) : Path := directory.join ⟨"", [settingsName]⟩

/-- The project file of a directory. -/
def projectPath (directory : Path) : Path := directory.join ⟨"", [projectName]⟩

/-- The settings file of the user. -/
def userPath (s : Surroundings) : Path := s.home.join userSettings

/-- The files that a configuration for a directory can come from. -/
def candidates [ReadingLimits] (s : Surroundings) (directory : Path) : List Candidate :=
  [⟨settingsPath directory, fun _ => True⟩,
    ⟨projectPath directory, fun bytes => ¬IsPassedOver (projectPath directory) bytes⟩,
    ⟨userPath s, fun _ => True⟩]

section Project

variable [ReadingLimits] {files : FileTree} {p : Path} {bytes : List UInt8}
  (hfile : files.find? p = some (.file bytes))
include hfile

theorem projectSettings?_of_isPassedOver (h : IsPassedOver p bytes) :
  projectSettings? files p = .ok none
  := by
  obtain ⟨text, v, htext, hv, htools⟩ := h
  rw [projectSettings?, readToml_of_find? hfile, textOf, htext]
  apply bind_eq_ok hv
  cases h : v.get? "tool" with
  | none => rfl
  | some tools =>
      obtain ⟨entries, rfl, hsection⟩ := htools tools h
      apply congrArg Except.ok hsection

/-- A project file that is not passed over has settings, or it cannot be read. -/
theorem projectSettings?_of_not_isPassedOver (hsuffix : p.suffix = ".toml")
    (h : ¬IsPassedOver p bytes) :
  projectSettings? files p = (Source.settingsOf p bytes).map some
  := by
  rw [projectSettings?, readToml_of_find? hfile, Source.settingsOf, Source.stop?, if_pos hsuffix,
    textOf]
  cases htext : Text.decode? bytes with
  | none => rfl
  | some text =>
      simp only [Source.documentOf, if_pos hsuffix]
      change (Toml.readDocument p.text text >>= _) = (Toml.readDocument p.text text >>= _).map _
      cases hv : Toml.readDocument p.text text with
      | error e => rfl
      | ok v =>
          change sectionOf? _ = (tomlSettings v).map some
          rw [tomlSettings]
          cases htools : v.get? "tool" with
          | none =>
              exfalso
              apply h
              use text, v, htext, hv
              intro tools h
              rw [htools] at h
              cases h
          | some tools =>
              cases tools with
              | map entries =>
                  cases hsection : Value.lookup sectionName entries with
                  | none =>
                      exfalso
                      apply h
                      use text, v, htext, hv
                      intro tools h
                      obtain rfl := Option.some.inj (htools.symm.trans h)
                      use entries, rfl, hsection
                  | some settings => simp [sectionOf?, hsection, Except.map]
              | _ => rfl

end Project

/-! ### Loading -/

theorem suffix_projectPath (directory : Path) :
  (projectPath directory).suffix = ".toml"
  := by
  have hname : (projectPath directory).name = projectName := by
    simp [projectPath, Path.join, Path.isAbsolute, Path.name]
  rw [Path.suffix, hname]
  decide

section Load

variable [ReadingLimits]

theorem projectSettingsIn?_of_not_applies {files : FileTree} {p : Path}
    (h : ∀ bytes, files.find? p = some (.file bytes) → ¬¬IsPassedOver p bytes) :
  projectSettingsIn? files p = .ok none
  := by
  rw [projectSettingsIn?]
  split
  · next hfile =>
    obtain ⟨bytes, hfind⟩ := FileTree.isFile_eq_true_iff.mp hfile
    apply projectSettings?_of_isPassedOver hfind (Classical.not_not.mp (h bytes hfind))
  · rfl

theorem loadUser_eq_outcome {s : Surroundings} {source : Source}
    (h : FirstOf s.files [⟨userPath s, fun _ => True⟩] source) :
  loadUser s = source.outcome s.environment
  := by
  change (if s.files.isFile (userPath s) then ofFile s (userPath s) else _) = _
  cases h with
  | here hfile =>
      rw [if_pos (FileTree.isFile_eq_true_iff.mpr ⟨_, hfile⟩)]
      apply ofFile_eq_outcome hfile
  | later hnot hrest =>
      cases hrest
      rw [if_neg (FileTree.not_isFile fun bytes hfile => hnot bytes hfile trivial)]
      change _ = build s.environment environmentName [] >>= _
      cases build s.environment environmentName [] with
      | error e => rfl
      | ok c => rfl

/-- What is loaded for a directory is made from the source that comes first. -/
theorem loadIn_eq_outcome {s : Surroundings} {directory : Path} {source : Source}
    (h : FirstOf s.files (candidates s directory) source) :
  loadIn s directory = source.outcome s.environment
  := by
  change (if s.files.isFile (settingsPath directory) then ofFile s (settingsPath directory)
    else projectSettingsIn? s.files (projectPath directory) >>= _) = _
  rw [candidates] at h
  cases h with
  | here hfile =>
      rw [if_pos (FileTree.isFile_eq_true_iff.mpr ⟨_, hfile⟩)]
      apply ofFile_eq_outcome hfile
  | later hnot hrest =>
      rw [if_neg (FileTree.not_isFile fun bytes hfile => hnot bytes hfile trivial)]
      cases hrest with
      | @here _ _ bytes hfile happlies =>
          rw [projectSettingsIn?, if_pos (FileTree.isFile_eq_true_iff.mpr ⟨_, hfile⟩),
            projectSettings?_of_not_isPassedOver hfile (suffix_projectPath directory) happlies,
            Source.outcome, Source.settings]
          cases Source.settingsOf (projectPath directory) bytes with
          | error e => rfl
          | ok settings => rfl
      | later hnot hrest =>
          rw [projectSettingsIn?_of_not_applies hnot]
          apply loadUser_eq_outcome hrest

end Load

end Config

end CommitPolicy
