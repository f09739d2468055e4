/-
Dates and times of day in the proleptic Gregorian calendar, and their count of
seconds from the start of 1970.

Days are counted in years that begin in March, so that the leap day is the last
day of its year and the months fall into a fixed pattern of 153 days for every
five of them.
-/
import CertRotation.Text.Blank
import CertRotation.Text.Decimal

namespace CertRotation

open Text

/-- A date and a time of day, in universal time. -/
structure CalendarTime where
  year : Int
  month : Nat
  day : Nat
  hour : Nat
  minute : Nat
  second : Nat
deriving DecidableEq, Repr

namespace CalendarTime

/-- Whether a year has a leap day. -/
def isLeap (y : Int) : Bool :=
  y % 4 == 0 && (y % 100 != 0 || y % 400 == 0)

/-- The number of days of a month; zero for a month that does not exist. -/
def daysInMonth (y : Int) (m : Nat) : Nat :=
  match m with
  | 1 | 3 | 5 | 7 | 8 | 10 | 12 => 31
  | 4 | 6 | 9 | 11 => 30
  | 2 => if isLeap y then 29 else 28
  | _ => 0

/-- Whether the fields name an existing date and time of day. -/
def isValid (t : CalendarTime) : Bool :=
  1 ≤ t.day && t.day ≤ daysInMonth t.year t.month && t.hour < 24 && t.minute < 60 && t.second < 60

/-- Days from the start of 1970 to a date. -/
def daysFromDate (year : Int) (month day : Nat) : Int :=
  let y := if month ≤ 2 then year - 1 else year
  let era := y / 400
  let yearOfEra := y % 400
  let dayOfYear := ((153 * ((month + 9) % 12) + 2) / 5 + day : Int) - 1
  let dayOfEra := yearOfEra * 365 + yearOfEra / 4 - yearOfEra / 100 + dayOfYear
  era * 146097 + dayOfEra - 719468

/-- The date that lies a number of days after the start of 1970. -/
def dateOfDays (days : Int) : Int × Nat × Nat :=
  let z := days + 719468
  let era := z / 146097
  let dayOfEra := (z % 146097).toNat
  let yearOfEra :=
    (dayOfEra - dayOfEra / 1460 + dayOfEra / 36524 - dayOfEra / 146096) / 365
  let dayOfYear := dayOfEra - (365 * yearOfEra + yearOfEra / 4 - yearOfEra / 100)
  let shifted := (5 * dayOfYear + 2) / 153
  let day := dayOfYear - (153 * shifted + 2) / 5 + 1
  let month := if shifted < 10 then shifted + 3 else shifted - 9
  let year := era * 400 + yearOfEra
  (if month ≤ 2 then year + 1 else year, month, day)

/-- Seconds from the start of 1970, negative before it. -/
def toUnix (t : CalendarTime) : Int :=
  daysFromDate t.year t.month t.day * 86400 + (t.hour * 3600 + t.minute * 60 + t.second : Nat)

/-- The date and time that lie a number of seconds after the start of 1970. -/
def ofUnix (seconds : Int) : CalendarTime :=
  let (year, month, day) := dateOfDays (seconds / 86400)
  let rest := (seconds % 86400).toNat
  ⟨year, month, day, rest / 3600, rest / 60 % 60, rest % 60⟩

/-- A year of four digits, with a sign where it lies outside of 0 to 9999. -/
def writeYear (y : Int) : List Char :=
  if 0 ≤ y ∧ y ≤ 9999 then Decimal.padded 4 y.toNat
  else (if y < 0 then '-' else '+') :: Decimal.padded 4 y.natAbs

/-- Date and time of day. -/
def writeClock (t : CalendarTime) : List Char :=
  writeYear t.year ++ ['-'] ++ Decimal.padded 2 t.month ++ ['-'] ++ Decimal.padded 2 t.day
    ++ ['T'] ++ Decimal.padded 2 t.hour ++ [':'] ++ Decimal.padded 2 t.minute ++ [':']
    ++ Decimal.padded 2 t.second

/-- The text of a time, with its offset from universal time. -/
def write (t : CalendarTime) : List Char :=
  t.writeClock ++ "+00:00".toList

end CalendarTime
end CertRotation
