/-
The text of a time, read back.

The marks between the fields are no digits, so each field ends where the mark behind it is found; only
the year can have a mark in it, the sign in front.
-/
import CertRotation.Calendar

namespace CertRotation.CalendarTime

open Text Decimal

/-- Reads year, month and day, with hyphens between them. -/
def readDate? (s : List Char) : Option (Int × Nat × Nat) := do
  let (front, day) ← splitLast '-' s
  let (year, month) ← splitLast '-' front
  some (← int? year, ← digits? month, ← digits? day)

/-- Reads hour, minute and second, with colons between them. -/
def readClock? (s : List Char) : Option (Nat × Nat × Nat) := do
  let [hour, minute, second] := splitAll ':' s | none
  some (← digits? hour, ← digits? minute, ← digits? second)

/-- Reads a date and a time of day in universal time. -/
def read? (s : List Char) : Option CalendarTime := do
  let (date, rest) ← splitFirst 'T' s
  let (clock, _) ← splitFirst '+' rest
  let (year, month, day) ← readDate? date
  let (hour, minute, second) ← readClock? clock
  some ⟨year, month, day, hour, minute, second⟩

end CertRotation.CalendarTime
