import CommitPolicy.Text.Integer

/-!
# Dates and times

A date is a year, a month and a day; a time of the day and a zone can follow.  `Moment.read?` reads
the notation and `Moment.fault?` tells why a moment that is written well does not exist.
-/

namespace CommitPolicy.Yaml

open Text

/-- A time of the day, and the zone as minutes east of the prime meridian if it is given. -/
structure DayTime where
  hour : Nat
  minute : Nat
  second : Nat
  zone : Option Int
  deriving DecidableEq, Repr

/-- A date, and the time of the day if it is given. -/
structure Moment where
  year : Nat
  month : Nat
  day : Nat
  /-- Whether month and day have two digits each. -/
  isPadded : Bool
  time : Option DayTime
  deriving DecidableEq, Repr

/-- Reads at least `least` and at most `most` digits. -/
def digitGroup? (least most : Nat) (s : List Char) : Option (List Char × List Char) :=
  let digits := (s.take most).takeWhile isAsciiDigit
  if digits.length < least then none else some (digits, s.drop digits.length)

/-- Reads a character out of some. -/
def oneOf? (cs : List Char) : List Char → Option (Char × List Char)
  | c :: rest => if cs.contains c then some (c, rest) else none
  | [] => none

/-- Drops blanks and tabs. -/
def dropGaps (s : List Char) : List Char := s.dropWhile fun c => c == ' ' || c == '\t'

namespace Moment

/-- Reads a zone up to the end of the text: nothing, `Z`, or hours and minutes with a sign. -/
def readZone? (s : List Char) : Option (Option Int) := do
  if s.isEmpty then return none
  match dropGaps s with
  | ['Z'] => some (some 0)
  | s => do
    let (sign, s) ← oneOf? ['+', '-'] s
    let (hours, s) ← digitGroup? 1 2 s
    let minutes ← match s with
      | [] => some []
      | _ => do
        let (_, s) ← oneOf? [':'] s
        let (minutes, s) ← digitGroup? 2 2 s
        if s.isEmpty then some minutes else none
    let total : Int := decimalValue hours * 60 + decimalValue minutes
    some (some (if sign == '-' then -total else total))

/-- Reads a time of the day and a zone up to the end of the text. -/
def readTime? (s : List Char) : Option DayTime := do
  let (hour, s) ← digitGroup? 1 2 s
  let (_, s) ← oneOf? [':'] s
  let (minute, s) ← digitGroup? 2 2 s
  let (_, s) ← oneOf? [':'] s
  let (second, s) ← digitGroup? 2 2 s
  let s := match s with
    | '.' :: rest => rest.dropWhile isAsciiDigit
    | s => s
  let zone ← readZone? s
  some ⟨decimalValue hour, decimalValue minute, decimalValue second, zone⟩

/-- Reads a moment. -/
def read? (s : List Char) : Option Moment := do
  let (year, s) ← digitGroup? 4 4 s
  let (_, s) ← oneOf? ['-'] s
  let (month, s) ← digitGroup? 1 2 s
  let (_, s) ← oneOf? ['-'] s
  let (day, s) ← digitGroup? 1 2 s
  let time ← match s with
    | [] => some none
    | c :: rest =>
      if c == 'T' || c == 't' then (readTime? rest).map some
      else if c == ' ' || c == '\t' then (readTime? (dropGaps rest)).map some
      else none
  some ⟨decimalValue year, decimalValue month, decimalValue day,
    month.length == 2 && day.length == 2, time⟩

/-- Whether a year has a day more. -/
def isLeapYear (y : Nat) : Bool := (y % 4 == 0 && y % 100 != 0) || y % 400 == 0

/-- The number of days of a month. -/
def monthDays (year month : Nat) : Nat :=
  if month = 2 then (if isLeapYear year then 29 else 28)
  else if [4, 6, 9, 11].contains month then 30 else 31

/-- A distance of a zone as it is named in a fault. -/
def zoneText (minutes : Int) : String :=
  let days := Int.fdiv minutes 1440
  let seconds := Int.fmod minutes 1440 * 60
  "datetime.timedelta(days=" ++ toString days
    ++ (if seconds = 0 then "" else ", seconds=" ++ toString seconds) ++ ")"

/-- Why there is no such zone. -/
def zoneFault? (zone : Option Int) : Option String :=
  match zone with
  | some minutes =>
    if minutes.natAbs < 1440 then none
    else
      some ("offset must be a timedelta strictly between -timedelta(hours=24) and "
        ++ "timedelta(hours=24), not " ++ zoneText minutes)
  | none => none

/-- Why there is no such date. -/
def dateFault? (m : Moment) : Option String :=
  if m.year = 0 then some "year 0 is out of range"
  else if m.month = 0 || 12 < m.month then some "month must be in 1..12"
  else if m.day = 0 || monthDays m.year m.month < m.day then some "day is out of range for month"
  else none

/-- Why there is no such time of the day. -/
def timeFault? (t : DayTime) : Option String :=
  if 23 < t.hour then some "hour must be in 0..23"
  else if 59 < t.minute then some "minute must be in 0..59"
  else if 59 < t.second then some "second must be in 0..59"
  else none

/-- Why there is no such moment. -/
def fault? (m : Moment) : Option String :=
  match m.time with
  | none => m.dateFault?
  | some t => ((zoneFault? t.zone).or m.dateFault?).or (timeFault? t)

end Moment

end CommitPolicy.Yaml
