/-
The calendar as a clock: which second follows which, and which of two times comes first.

No days are added up here, so this is what the count of seconds is measured by.
-/
import CertRotation.Calendar

namespace CertRotation.CalendarTime

/-- The start of 1970. -/
def epoch : CalendarTime :=
  ⟨1970, 1, 1, 0, 0, 0⟩

/-- The start of the next day. -/
def nextDay (t : CalendarTime) : CalendarTime :=
  if t.day < daysInMonth t.year t.month then ⟨t.year, t.month, t.day + 1, 0, 0, 0⟩
  else if t.month < 12 then ⟨t.year, t.month + 1, 1, 0, 0, 0⟩
  else ⟨t.year + 1, 1, 1, 0, 0, 0⟩

/-- The next second. -/
def next (t : CalendarTime) : CalendarTime :=
  if t.second < 59 then { t with second := t.second + 1 }
  else if t.minute < 59 then { t with minute := t.minute + 1, second := 0 }
  else if t.hour < 23 then { t with hour := t.hour + 1, minute := 0, second := 0 }
  else t.nextDay

/-- The time that is reached after a number of seconds. -/
def later : Nat → CalendarTime → CalendarTime
  | 0, t => t
  | n + 1, t => later n t.next

/-- The clock needs so many seconds from the start of 1970 to a time; a negative number counts the
seconds from the time to the start of 1970. -/
def IsSecond (t : CalendarTime) (n : Int) : Prop :=
  later n.toNat epoch = later (-n).toNat t

instance (t : CalendarTime) (n : Int) : Decidable (t.IsSecond n) :=
  inferInstanceAs (Decidable (later n.toNat epoch = later (-n).toNat t))

/-- The order of the calendar: the first field that differs decides, from the year down. -/
def Before (t u : CalendarTime) : Prop :=
  t.year < u.year ∨ t.year = u.year ∧
    (t.month < u.month ∨ t.month = u.month ∧
      (t.day < u.day ∨ t.day = u.day ∧
        (t.hour < u.hour ∨ t.hour = u.hour ∧
          (t.minute < u.minute ∨ t.minute = u.minute ∧ t.second < u.second))))

end CertRotation.CalendarTime
