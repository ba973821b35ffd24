import CommitPolicy.Failure

/-!
# Memo

A memo stores values under keys and lets each value be computed by one caller at a time.  A caller
enters with a key: if a value is stored it is a hit, if another caller is computing the value the
caller has to wait, and otherwise the caller leads, computes the value and settles the key.  The
stored entries are ordered by their last use, and when there are more than the memo can hold the one
that was not used for longest is dropped.
-/

namespace CommitPolicy

/-- The values that have been stored, the keys whose values are being computed, and how many
requests were hits and how many led to a computation. -/
structure Memo (V : Type) where
  /-- The number of entries that can be stored; any number if it is missing. -/
  maxSize : Option Nat
  /-- The stored entries, least recently used first. -/
  entries : List (String × V)
  inFlight : List String
  hits : Nat
  misses : Nat

/-- What a caller finds when it enters a memo with a key. -/
inductive Admission (V : Type) where
  | hit (value : V)
  /-- Another caller is computing the value. -/
  | wait
  /-- The caller has to compute the value and to settle the key. -/
  | lead

namespace Memo

variable {V : Type}

/-- The number of entries that can be stored unless another one is asked for. -/
def defaultSize : Nat := 4096

/-- A memo in which nothing is stored. -/
def empty (maxSize : Option Nat) : Memo V := ⟨maxSize, [], [], 0, 0⟩

/-- A memo for the given number of entries, which has to be positive. -/
def make? : Option Int → Except Failure (Memo V)
  | none => .ok (empty none)
  | some n =>
    if n ≤ 0 then .error (.argument "max_size must be positive or None")
    else .ok (empty (some n.toNat))

/-- The stored keys, least recently used first. -/
def keys (m : Memo V) : List String := m.entries.map (·.1)

/-- The value stored under a key. -/
def get? (m : Memo V) (key : String) : Option V := m.entries.lookup key

/-- Whether a value is stored under a key. -/
def contains (m : Memo V) (key : String) : Bool := (m.get? key).isSome

/-- Makes an entry the most recently used one. -/
def touch (m : Memo V) (key : String) (value : V) : List (String × V) :=
  (m.entries.filter fun e => e.1 != key) ++ [(key, value)]

/-- What a caller with a key finds, and the memo after it has been let in. -/
def enter (m : Memo V) (key : String) : Admission V × Memo V :=
  match m.get? key with
  | some value => (.hit value, { m with entries := m.touch key value, hits := m.hits + 1 })
  | none =>
    if m.inFlight.contains key then (.wait, m)
    else (.lead, { m with inFlight := key :: m.inFlight, misses := m.misses + 1 })

/-- The entries with a value put under a key: in the place of the key if it is stored, and else as
the most recently used one. -/
def put (entries : List (String × V)) (key : String) (value : V) : List (String × V) :=
  if entries.any fun e => e.1 == key then
    entries.map fun e => if e.1 == key then (key, value) else e
  else entries ++ [(key, value)]

/-- The entries without the least recently used one, if there are too many. -/
def evict (maxSize : Option Nat) (entries : List (String × V)) : List (String × V) :=
  match maxSize with
  | some n => if n < entries.length then entries.drop 1 else entries
  | none => entries

/-- The memo with a key no longer in flight. -/
def release (m : Memo V) (key : String) : Memo V := { m with inFlight := m.inFlight.erase key }

/-- The memo after a leading caller has computed a value and stored it under its key. -/
def settle (m : Memo V) (key : String) (value : V) : Memo V :=
  { m with entries := evict m.maxSize (put m.entries key value) }.release key

/-- The memo without entries, and with the counters at zero; computations go on. -/
def clear (m : Memo V) : Memo V := { m with entries := [], hits := 0, misses := 0 }

end Memo

end CommitPolicy
