import CommitPolicy.Config.Environment
import CommitPolicy.Files.Tree
import CommitPolicy.Text.Utf8
import CommitPolicy.Toml.Document
import CommitPolicy.Yaml.Document

/-!
# Loading a configuration

The configuration comes from the file that is asked for; otherwise from the first of the settings
file of a directory, the section for the program in the project file of the directory, the settings
file of the user, and the environment alone.
-/

namespace CommitPolicy

/-- What a run of the program can see: the files, the home directory of the user, and the
environment variables. -/
structure Surroundings where
  files : FileTree
  home : Path
  environment : Environment

/-- A configuration, and the file that it was read from. -/
structure LoadedConfig where
  config : Config
  source : Option Path

namespace Config

/-- The name of the settings file of a directory. -/
def settingsName : String := ".fast-cc-hooks.yaml"

/-- The name of the project file of a directory. -/
def projectName : String := "pyproject.toml"

/-- The name of the section for the program in a project file. -/
def sectionName : String := "fast-cc-hooks"

/-- The settings file of a user, from the home directory on. -/
def userSettings : Path := ⟨"", [".fast-cc", "fast-cc-config.yaml"]⟩

/-- How the environment is named in errors. -/
def environmentName : String := "FAST_CC_* environment variables"

/-- The text of the bytes of a file. -/
def textOf (bytes : List UInt8) : Except Failure String :=
  match Text.decode? bytes with
  | some text => .ok text
  | none => .error .undecodable

/-- Whether a file can be read to its end: its bytes are a text, and one that a YAML document can
be. -/
def isReadable (bytes : List UInt8) : Bool :=
  match Text.decode? bytes with
  | some text => (Yaml.characterFault? (Text.universalNewlines text.toList)).isNone
  | none => false

/-- The section for the program in the table of tools, if there is one. -/
def sectionOf? : Value → Except Failure (Option Value)
  | .map tools => .ok (Value.lookup sectionName tools)
  | _ => .error .notTable

/-- The settings in the value of a TOML document: the section for the program if there is a table of
tools, and otherwise all of it. -/
def tomlSettings (v : Value) : Except Failure Value :=
  match v.get? "tool" with
  | some tools => (sectionOf? tools).map (·.getD (.map []))
  | none => .ok v

variable [ReadingLimits]

/-- What stops the reader of a YAML document before it comes to what it cannot read. -/
def earlyStop? (bytes : List UInt8) : Option Yaml.EarlyStop :=
  if isReadable bytes then none else ReadingLimits.earlyStop? bytes

/-- The value of the YAML document in a file; no mapping is the same as an empty one if it is
void. -/
def readYaml (files : FileTree) (p : Path) : Except Failure Value := do
  let bytes ← files.read p
  match earlyStop? bytes with
  | some stop => .error (stop.failure p.text)
  | none =>
    let text ← textOf bytes
    let v ← Yaml.readDocument p.text (String.ofList (Text.universalNewlines text.toList))
    .ok (if v.isVoid then .map [] else v)

/-- The value of the TOML document in a file, which is decoded as a whole. -/
def readToml (files : FileTree) (p : Path) : Except Failure Value := do
  Toml.readDocument p.text (← textOf (← files.read p))

/-- The configuration in a file, which is in TOML if its name says so, and otherwise in YAML. -/
def ofFile (s : Surroundings) (p : Path) : Except Failure LoadedConfig := do
  let settings ←
    if p.suffix = ".toml" then tomlSettings (← readToml s.files p) else readYaml s.files p
  .ok ⟨← ofDocument s.environment p.text settings, some p⟩

/-- The settings in a project file, if it has a section for the program. -/
def projectSettings? (files : FileTree) (p : Path) : Except Failure (Option Value) := do
  sectionOf? (((← readToml files p).get? "tool").getD (.map []))

/-- The settings in the project file of a directory, if there are any. -/
def projectSettingsIn? (files : FileTree) (p : Path) : Except Failure (Option Value) :=
  if files.isFile p then projectSettings? files p else .ok none

/-- The configuration of the user, or else of the environment alone. -/
def loadUser (s : Surroundings) : Except Failure LoadedConfig :=
  let p := s.home.join userSettings
  if s.files.isFile p then ofFile s p
  else (build s.environment environmentName []).map fun c => ⟨c, none⟩

/-- The configuration that holds in a directory. -/
def loadIn (s : Surroundings) (directory : Path) : Except Failure LoadedConfig :=
  let settingsFile := directory.join ⟨"", [settingsName]⟩
  let projectFile := directory.join ⟨"", [projectName]⟩
  if s.files.isFile settingsFile then ofFile s settingsFile
  else do
    match ← projectSettingsIn? s.files projectFile with
    | some settings =>
      .ok ⟨← ofDocument s.environment projectFile.text settings, some projectFile⟩
    | none => loadUser s

/-- The configuration in the file `path` if there is such a path, and otherwise the one that holds
in a directory, which is the working directory if none is given. -/
def load (s : Surroundings) (path directory : Option Path) : Except Failure LoadedConfig :=
  match path with
  | some p =>
    if s.files.isFile p then ofFile s p else .error (.config (.notFound p.text))
  | none => loadIn s (directory.getD s.files.workingDirectory)

end Config

end CommitPolicy
