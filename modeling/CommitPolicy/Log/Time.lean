import CommitPolicy.Text.Lines

/-!
# Times

The time of a log: it stands in every line, and in the name of a log file that is named for it.
-/

namespace CommitPolicy

open Text

/-- A number in two digits. -/
def twoDigits (n : Nat) : String := if n < 10 then "0" ++ toString n else toString n

/-- A date and a time of the day. -/
structure LocalTime where
  year : Nat
  month : Nat
  day : Nat
  hour : Nat
  minute : Nat
  second : Nat
  deriving DecidableEq, Repr

namespace LocalTime

/-- The date. -/
def date (t : LocalTime) : String :=
  toString t.year ++ "-" ++ twoDigits t.month ++ "-" ++ twoDigits t.day

/-- The time of the day, with `sep` between its parts. -/
def clock (t : LocalTime) (sep : String) : String :=
  joinWith sep ([t.hour, t.minute, t.second].map twoDigits)

/-- The time as it stands in a line. -/
def line (t : LocalTime) : String := t.date ++ " " ++ t.clock ":"

/-- The time as it stands in the name of a file. -/
def fileName (t : LocalTime) : String := t.date ++ "_" ++ t.clock "-"

end LocalTime

end CommitPolicy
