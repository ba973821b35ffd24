import CommitPolicy.Config.Value
import CommitPolicy.Yaml.Style

/-!
# Writing documents

`writeMapping` writes a mapping as a document, one entry or item in a line: texts, integers, truth
values, and lists and mappings of them.
-/

namespace CommitPolicy.Yaml

open Text

/-- The column at which the next column of structure starts. -/
def step : Nat := 2

/-- Writes a value that is no collection, from a column on. -/
def writeScalar (indent column : Nat) : Value → List Char
  | .text s => writeText indent column s.toList
  | .int n => (toString n).toList
  | .bool b => if b then "true".toList else "false".toList
  | _ => "null".toList

mutual

/-- Writes a value after a key or, if `inList` holds, after a hyphen, in a block that starts at the
column `indent`; `column` is the one after the key or the hyphen. -/
def writeValue (inList : Bool) (indent column : Nat) : Value → List Char
  | .list [] => " []\n".toList
  | .list (item :: items) =>
    let inner := if inList then indent + step else indent
    (if inList then [' '] else '\n' :: margin inner)
      ++ '-' :: writeValue true inner (inner + 1) item ++ writeItems inner items
  | .map [] => " \x7b\x7d\n".toList
  | .map ((k, v) :: entries) =>
    let key := writeScalar 0 0 k
    let inner := indent + step
    (if inList then [' '] else '\n' :: margin inner)
      ++ key ++ ':' :: writeValue false inner (inner + key.length + 1) v
      ++ writeEntries inner entries
  | v => ' ' :: writeScalar (indent + step) (column + 1) v ++ ['\n']

/-- Writes items, each in a line of its own. -/
def writeItems (indent : Nat) : List Value → List Char
  | [] => []
  | item :: items =>
    margin indent ++ '-' :: writeValue true indent (indent + 1) item ++ writeItems indent items

/-- Writes entries, each in a line of its own. -/
def writeEntries (indent : Nat) : List (Value × Value) → List Char
  | [] => []
  | (k, v) :: entries =>
    let key := writeScalar 0 0 k
    margin indent ++ key ++ ':' :: writeValue false indent (indent + key.length + 1) v
      ++ writeEntries indent entries

end

/-- The document of a mapping. -/
def writeMapping (entries : List (Value × Value)) : String :=
  if entries.isEmpty then "\x7b\x7d\n" else String.ofList (writeEntries 0 entries)

end CommitPolicy.Yaml
