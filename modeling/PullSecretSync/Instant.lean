/-!
# Instants

A point in time, counted from 1970-01-01T00:00:00Z in seconds and nanoseconds, and its place in
the proleptic Gregorian calendar. A leap second is the extension of the second before it, so its
nanoseconds are beyond `10 ^ 9`.
-/

namespace PullSecretSync

/-- A point in time. -/
structure Instant where
  seconds : Int
  nanos : Nat
  deriving DecidableEq, Repr

/-- A day of the calendar. -/
structure Day where
  year : Int
  month : Nat
  day : Nat
  deriving DecidableEq, Repr

namespace Day

/-- The Gregorian rule for leap years. -/
def isLeap (year : Int) : Bool := year % 4 = 0 && (year % 100 ≠ 0 || year % 400 = 0)

/-- The number of days of a month. -/
def monthLength (year : Int) (month : Nat) : Nat :=
  if month = 2 then (if isLeap year then 29 else 28)
  else if month = 4 ∨ month = 6 ∨ month = 9 ∨ month = 11 then 30
  else 31

/-- Whether the calendar has the day, within the years that instants are kept for. -/
def valid (date : Day) : Bool :=
  (-262143 ≤ date.year && date.year ≤ 262142) && (1 ≤ date.month && date.month ≤ 12) &&
    (1 ≤ date.day && date.day ≤ monthLength date.year date.month)

/-- The number of days from 1970-01-01 to a day. Years are counted from March, so that the leap
day is the last of its year. -/
def number (date : Day) : Int :=
  let year := if date.month ≤ 2 then date.year - 1 else date.year
  let month := (date.month + 9) % 12
  365 * year + year / 4 - year / 100 + year / 400 + (153 * month + 2) / 5 + (date.day - 1) - 719468

/-- The day a number of days after 1970-01-01. -/
def ofNumber (number : Int) : Day :=
  let shifted := number + 719468
  let era := shifted / 146097
  let dayOfEra := (shifted % 146097).toNat
  let yearOfEra := (dayOfEra - dayOfEra / 1460 + dayOfEra / 36524 - dayOfEra / 146096) / 365
  let dayOfYear := dayOfEra - (365 * yearOfEra + yearOfEra / 4 - yearOfEra / 100)
  let month := (5 * dayOfYear + 2) / 153
  let day := dayOfYear - (153 * month + 2) / 5 + 1
  let year : Int := yearOfEra + era * 400
  if month < 10 then ⟨year, month + 3, day⟩ else ⟨year + 1, month - 9, day⟩

end Day

end PullSecretSync
