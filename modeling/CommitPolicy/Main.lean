import CommitPolicy.CommandLine.Consulted
import Std.Time.DateTime.PlainDateTime
import Std.Time.DateTime.Timestamp

/-!
# The program

Gathers what a run depends on, runs, and puts the effects of the run into practice.  There is no
repository and no clipboard here, so that a range cannot be checked and a path is only shown.
-/

namespace CommitPolicy.CommandLine

/-- The file or directory under the given names, if there is one. -/
def lookAt (names : List String) : IO (Option Entry) := do
  let place := (← IO.currentDir) / ("/" ++ Text.joinWith "/" names)
  if ← place.isDir then pure (some .directory)
  else if ← place.pathExists then pure (some (.file (← IO.FS.readBinFile place).toList))
  else pure none

/-- The tree with what is found under names that it does not have. -/
def gather (files : FileTree) (wanted : List (List String)) : IO FileTree :=
  wanted.foldlM (fun files names => do
    if (files.at? names).isSome then pure files
    else
      match ← lookAt names with
      | some e => pure (files.put names e)
      | none => pure files) files

/-- Runs until everything that is changed was looked at before; looks at most `fuel` times. -/
def runSeen (s : Setup) (args : List String) : (fuel : Nat) → IO Outcome
  | 0 => pure (run s args)
  | fuel + 1 => do
    let r := run s args
    let old := s.surroundings.files
    let files ← gather old (unseen old r)
    if files.entries.length = old.entries.length then pure r
    else runSeen { s with surroundings := { s.surroundings with files := files } } args fuel

/-- Writes the files that a run has changed. -/
def writeChanges (before : FileTree) (r : Outcome) : IO Unit :=
  (before.changes r.effects.files).forM fun (names, bytes) => do
    let root ← IO.currentDir
    IO.FS.createDirAll (root / ("/" ++ Text.joinWith "/" names.dropLast))
    IO.FS.writeBinFile (root / ("/" ++ Text.joinWith "/" names)) ⟨bytes.toArray⟩

/-- The variables of the environment that set fields. -/
def readVariables : IO Environment :=
  settingVariables.filterMapM fun (key, _, _) => do
    pure ((← IO.getEnv key).map fun value => (key, value))

/-- The time in coordinated universal time. -/
def readClock : IO Clock := do
  let now ← Std.Time.Timestamp.now
  let t := Std.Time.PlainDateTime.ofWallTime
    (Std.Time.WallTime.ofSeconds now.toSecondsSinceUnixEpoch)
  let year : Int := t.year
  pure (Clock.ofTime ⟨year.toNat, t.month.val.toNat, t.day.val.toNat, t.hour.val.toNat,
    t.minute.val.toNat, t.second.val.toNat⟩)

end CommitPolicy.CommandLine

open CommitPolicy CommitPolicy.CommandLine in
/-- Runs the program with the given arguments. -/
def main (args : List String) : IO UInt32 := do
  let directory := Path.ofString (← IO.currentDir).toString
  let home := Path.ofString ((← IO.getEnv "HOME").getD "/")
  let files ← gather ⟨[], directory⟩ (consulted directory home args)
  let input ←
    if readsInput files args then pure (Text.decodeLossy (← (← IO.getStdin).readBinToEnd).toList)
    else pure ""
  let setup : Setup :=
    { surroundings := ⟨files, home, ← readVariables⟩, input := input, repository := .missing,
      clock := ← readClock, installed := none, location := directory }
  let r ← runSeen setup args 3
  IO.print r.effects.output
  IO.eprint r.effects.errors
  writeChanges files r
  if let some f := r.failure then IO.eprintln ("Failed: " ++ f.text)
  pure r.exitCode.toUInt32
