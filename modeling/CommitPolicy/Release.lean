import CommitPolicy.Console.Panel

/-!
# Release

The name and the version of the program, and what is shown about an installation of it.
-/

namespace CommitPolicy.Release

open Text Console

/-- The name of the program. -/
def product : String := "fast-cc-hooks"

/-- The version of the program. -/
def version : String := "1.2.0"

/-- The version that is installed, as text. -/
def installedVersion (installed : Option String) : String := installed.getD "unknown"

/-- Whether the installed version is known to differ from the version of the program. -/
def differs (installed : Option String) : Bool :=
  let v := installedVersion installed
  v != version && v != "unknown"

/-- The version in one line. -/
def summary (installed : Option String) : String :=
  product ++ " " ++ version
    ++ (if differs installed then " (installed: " ++ installedVersion installed ++ ")" else "")

/-- What is shown about an installation in the directory `path`. -/
def details (installed : Option String) (path : String) : String :=
  product ++ "\nCurrent version: " ++ version ++ "\nInstalled version: "
    ++ installedVersion installed ++ "\nInstallation path: " ++ path ++ "\n"
    ++ (if differs installed then
      "\nVersion mismatch detected!\nConsider reinstalling: pip install -e .\n" else "")
    ++ "\nInstallation verified successfully"

/-- The details in a panel `width` cells wide. -/
def panel (installed : Option String) (path : String) (width : Nat) : String :=
  String.ofList ((drawPanel width "Version Information".toList
    (dropControls (details installed path).toList)).flatMap fun line => line ++ ['\n'])

end CommitPolicy.Release
