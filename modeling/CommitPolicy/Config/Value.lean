/-!
# Settings documents

A settings document is a tree of values, whatever notation it was written in.  The keys of a mapping
are values too and keep the order in which they were written.
-/

namespace CommitPolicy

/-- A value of a settings document. -/
inductive Value where
  | null
  | bool (b : Bool)
  | int (n : Int)
  | float (x : Float)
  | text (s : String)
  | bytes (b : List UInt8)
  /-- A date, a time or both. -/
  | moment
  | list (items : List Value)
  /-- A key and a value as an item of a list. -/
  | pair (key value : Value)
  | set (items : List Value)
  | map (entries : List (Value × Value))
  deriving Inhabited

namespace Value

/-- Whether the value counts as absent when a document consists of it alone: null, false, zero, or
anything empty. -/
def isVoid : Value → Bool
  | null => true
  | bool b => !b
  | int n => n == 0
  | float x => x == 0
  | text s => s.isEmpty
  | bytes b => b.isEmpty
  | moment => false
  | list items => items.isEmpty
  | pair _ _ => false
  | set items => items.isEmpty
  | map entries => entries.isEmpty

/-- The value of a text key in a list of entries. -/
def lookup (key : String) : List (Value × Value) → Option Value
  | [] => none
  | (text k, v) :: rest => if k = key then some v else lookup key rest
  | _ :: rest => lookup key rest

/-- The value of a text key, if the value is a mapping that has it. -/
def get? (v : Value) (key : String) : Option Value :=
  match v with
  | map entries => lookup key entries
  | _ => none

end Value

end CommitPolicy
