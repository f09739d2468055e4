/-
# `Proofs.Calendar.Count` — the count of seconds goes with the clock

The count is worked out from days, and the days from years that begin in March.  The clock knows
neither: it goes from one second to the next.  Both agree, for every valid time:

    t.next.toUnix    = t.toUnix + 1               (`toUnix_next`)
    ofUnix t.toUnix  = t                          (`ofUnix_toUnix`)
    t.IsSecond n     ↔  n = t.toUnix              (`isSecond_iff`)
    t.Before u       ↔  t.toUnix < u.toUnix       (`before_iff_toUnix_lt`)

The order is never compared with the count field by field.  A time is read back from its count, so
the clock reaches every time of a greater count (`later_eq`), and each of its steps goes forward.
-/
import Mathlib.Tactic.IntervalCases
import CertRotation.Calendar.Clock

namespace CertRotation.CalendarTime

/-! ## Months -/

section
variable {t : CalendarTime} {y : Int} {m d : Nat}

theorem isLeap_iff : isLeap y = true ↔ y % 4 = 0 ∧ (y % 100 ≠ 0 ∨ y % 400 = 0) := by
  simp only [isLeap, Bool.and_eq_true, Bool.or_eq_true, beq_iff_eq, bne_iff_ne]

theorem daysInMonth_le (y : Int) (m : Nat) : daysInMonth y m ≤ 31 := by
  unfold daysInMonth
  split <;> first | decide | (split <;> decide)

theorem one_le_daysInMonth (hm : 1 ≤ m ∧ m ≤ 12) : 1 ≤ daysInMonth y m := by
  obtain ⟨h1, h12⟩ := hm
  by_cases hleap : isLeap y = true
  · interval_cases m <;> simp [daysInMonth, hleap]
  · interval_cases m <;> simp [daysInMonth, hleap]

theorem isValid_iff : t.isValid = true ↔
    (1 ≤ t.day ∧ t.day ≤ daysInMonth t.year t.month) ∧
      t.hour < 24 ∧ t.minute < 60 ∧ t.second < 60 := by
  simp only [isValid, Bool.and_eq_true, decide_eq_true_iff, and_assoc]

/-- A month that does not exist has no day. -/
theorem month_of_isValid (h : t.isValid = true) : 1 ≤ t.month ∧ t.month ≤ 12 := by
  have hday := (isValid_iff.mp h).1
  unfold daysInMonth at hday
  split at hday <;> omega

/-- All fields but the year have two digits. -/
theorem fields_lt (h : t.isValid = true) :
    ∀ n ∈ [t.month, t.day, t.hour, t.minute, t.second], n < 100 := by
  obtain ⟨⟨-, hday⟩, hhour, hminute, hsecond⟩ := isValid_iff.mp h
  have hmonth := (month_of_isValid h).2
  have hmost := daysInMonth_le t.year t.month
  simp only [List.forall_mem_cons, List.not_mem_nil, false_implies, implies_true, and_true]
  omega

/-! ## Years that begin in March -/

/-- The year that a month belongs to when years begin in March. -/
def marchYear (year : Int) (month : Nat) : Int :=
  if month ≤ 2 then year - 1 else year

/-- How far a day lies behind the first of March. -/
def dayOfMarchYear (month day : Nat) : Nat :=
  (153 * ((month + 9) % 12) + 2) / 5 + day - 1

/-- The days before a year, to a constant. -/
def daysBeforeYear (y : Int) : Int :=
  365 * y + y / 4 - y / 100 + y / 400

theorem daysBeforeYear_eq (y : Int) :
    daysBeforeYear y = y / 400 * 146097 + (y % 400 * 365 + y % 400 / 4 - y % 400 / 100) := by
  have hfour : y % 400 / 4 = y / 4 - 100 * (y / 400) := by omega
  have hhundred : y % 400 / 100 = y / 100 - 4 * (y / 400) := by omega
  rw [daysBeforeYear, hfour, hhundred]
  omega

/-- A year is longer by a day where the February at its end is. -/
theorem daysBeforeYear_succ (y : Int) :
    daysBeforeYear (y + 1) = daysBeforeYear y + (if isLeap (y + 1) then 366 else 365) := by
  unfold daysBeforeYear
  by_cases hleap : isLeap (y + 1) = true
  · rw [if_pos hleap]
    rw [isLeap_iff] at hleap
    omega
  · rw [if_neg hleap]
    rw [isLeap_iff] at hleap
    omega

theorem daysFromDate_eq (hd : 1 ≤ d) :
    daysFromDate y m d = daysBeforeYear (marchYear y m) + dayOfMarchYear m d - 719468 := by
  have hday : ((153 * ((m + 9) % 12) + 2) / 5 + d : Int) - 1 = dayOfMarchYear m d := by
    have hmonth : ((m : Int) + 9) % 12 = ((m + 9) % 12 : Nat) := (Int.natCast_emod _ _).symm
    rw [hmonth, dayOfMarchYear]
    omega
  unfold daysFromDate
  rw [daysBeforeYear_eq, hday]
  exact congrArg (· - 719468) (Int.add_assoc _ _ _).symm

/-! ## From a day to the next -/

theorem daysFromDate_succ (hd : 1 ≤ d) : daysFromDate y m (d + 1) = daysFromDate y m d + 1 := by
  rw [daysFromDate_eq (Nat.le_add_left 1 d), daysFromDate_eq hd]
  unfold dayOfMarchYear
  omega

/-- From the last day of a month to the first of the next.  Only the step out of February enters
another March year. -/
theorem daysFromDate_nextMonth (h1 : 1 ≤ m) (h12 : m < 12) :
    daysFromDate y (m + 1) 1 = daysFromDate y m (daysInMonth y m) + 1 := by
  rw [daysFromDate_eq (Nat.le_refl 1), daysFromDate_eq (one_le_daysInMonth ⟨h1, Nat.le_of_lt h12⟩)]
  by_cases hfeb : m = 2
  · subst hfeb
    have hyear : daysBeforeYear y = daysBeforeYear (y - 1) + (if isLeap y then 366 else 365) := by
      have hsucc := daysBeforeYear_succ (y - 1)
      rwa [Int.sub_add_cancel] at hsucc
    have hmarch : marchYear y (2 + 1) = y ∧ marchYear y 2 = y - 1 := ⟨rfl, rfl⟩
    have hfirst : dayOfMarchYear (2 + 1) 1 = 0 := rfl
    rw [hmarch.1, hmarch.2, hyear, hfirst, daysInMonth]
    by_cases hleap : isLeap y = true
    · have hlast : dayOfMarchYear 2 29 = 365 := rfl
      rw [if_pos hleap, if_pos hleap, hlast]
      omega
    · have hlast : dayOfMarchYear 2 28 = 364 := rfl
      rw [if_neg hleap, if_neg hleap, hlast]
      omega
  -- The other months have a fixed length, and both days lie in one March year.
  · have hyear : marchYear y (m + 1) = marchYear y m := by
      unfold marchYear
      interval_cases m <;> first | rfl | contradiction
    have hday : dayOfMarchYear (m + 1) 1 = dayOfMarchYear m (daysInMonth y m) + 1 := by
      interval_cases m <;> first | rfl | contradiction
    rw [hyear, hday]
    omega

theorem daysFromDate_nextYear (y : Int) :
    daysFromDate (y + 1) 1 1 = daysFromDate y 12 31 + 1 := by
  have hyear : marchYear (y + 1) 1 = y ∧ marchYear y 12 = y := ⟨Int.add_sub_cancel y 1, rfl⟩
  have hday : dayOfMarchYear 1 1 = dayOfMarchYear 12 31 + 1 := rfl
  rw [daysFromDate_eq (Nat.le_refl 1), daysFromDate_eq (by decide), hyear.1, hyear.2, hday]
  omega

end

/-! ## The steps of the clock -/

section
variable {t u v : CalendarTime} {n : Nat}

theorem midnight_isValid {y : Int} {m d : Nat} (h : 1 ≤ d ∧ d ≤ daysInMonth y m) :
    isValid ⟨y, m, d, 0, 0, 0⟩ = true :=
  isValid_iff.mpr ⟨h, Nat.succ_pos 23, Nat.succ_pos 59, Nat.succ_pos 59⟩

theorem toUnix_midnight (y : Int) (m d : Nat) :
    toUnix ⟨y, m, d, 0, 0, 0⟩ = daysFromDate y m d * 86400 := by
  simp only [toUnix, Nat.zero_mul, Nat.add_zero, Int.natCast_zero, Int.add_zero]

/-- The three ways to the next day: in the month, in the year, and over the end of the year. -/
theorem nextDay_cases (h : t.isValid = true) :
    (t.day < daysInMonth t.year t.month ∧ t.nextDay = ⟨t.year, t.month, t.day + 1, 0, 0, 0⟩) ∨
    (t.day = daysInMonth t.year t.month ∧ t.month < 12 ∧
      t.nextDay = ⟨t.year, t.month + 1, 1, 0, 0, 0⟩) ∨
    (t.day = 31 ∧ t.month = 12 ∧ t.nextDay = ⟨t.year + 1, 1, 1, 0, 0, 0⟩) := by
  obtain ⟨hday, -⟩ := isValid_iff.mp h
  have hmonth := month_of_isValid h
  unfold nextDay
  split
  case isTrue hroom => exact Or.inl ⟨hroom, rfl⟩
  case isFalse hlast =>
    have hend : t.day = daysInMonth t.year t.month := by omega
    split
    case isTrue hnext => exact Or.inr (Or.inl ⟨hend, hnext, rfl⟩)
    case isFalse hyear =>
      have hdecember : t.month = 12 := by omega
      rw [hdecember] at hend
      exact Or.inr (Or.inr ⟨hend, hdecember, rfl⟩)

theorem nextDay_isValid (h : t.isValid = true) : t.nextDay.isValid = true := by
  rcases nextDay_cases h with ⟨hroom, hnext⟩ | ⟨-, hmonth, hnext⟩ | ⟨-, -, hnext⟩
  · rw [hnext]
    exact midnight_isValid ⟨Nat.le_add_left 1 _, hroom⟩
  · rw [hnext]
    exact midnight_isValid ⟨Nat.le_refl 1, one_le_daysInMonth ⟨Nat.le_add_left 1 _, hmonth⟩⟩
  · rw [hnext]
    exact midnight_isValid ⟨Nat.le_refl 1, one_le_daysInMonth ⟨Nat.le_refl 1, Nat.succ_pos 11⟩⟩

theorem toUnix_nextDay (h : t.isValid = true) :
    t.nextDay.toUnix = (daysFromDate t.year t.month t.day + 1) * 86400 := by
  rcases nextDay_cases h with ⟨-, hnext⟩ | ⟨hend, hmonth, hnext⟩ | ⟨hend, hdecember, hnext⟩
  · rw [hnext, toUnix_midnight, daysFromDate_succ (isValid_iff.mp h).1.1]
  · rw [hnext, toUnix_midnight, daysFromDate_nextMonth (month_of_isValid h).1 hmonth, ← hend]
  · rw [hnext, toUnix_midnight, daysFromDate_nextYear, hend, hdecember]

theorem before_nextDay (h : t.isValid = true) : t.Before t.nextDay := by
  unfold Before
  rcases nextDay_cases h with ⟨-, hnext⟩ | ⟨-, -, hnext⟩ | ⟨-, -, hnext⟩
  · rw [hnext]
    exact Or.inr ⟨rfl, Or.inr ⟨rfl, Or.inl (Nat.lt_succ_self _)⟩⟩
  · rw [hnext]
    exact Or.inr ⟨rfl, Or.inl (Nat.lt_succ_self _)⟩
  · rw [hnext]
    exact Or.inl (Int.lt_succ _)

/-- What a step of the clock does to a valid time: it stays valid, it counts one more, and it goes
forward. -/
theorem next_spec (h : t.isValid = true) :
    t.next.isValid = true ∧ t.next.toUnix = t.toUnix + 1 ∧ t.Before t.next := by
  obtain ⟨hday, hhour, hminute, hsecond⟩ := isValid_iff.mp h
  unfold next
  split
  case isTrue hroom =>
    refine ⟨isValid_iff.mpr ⟨hday, hhour, hminute, Nat.succ_lt_succ hroom⟩, ?_, ?_⟩
    · simp only [toUnix]
      omega
    · dsimp only [Before]
      omega
  case isFalse hfull =>
    split
    case isTrue hroom =>
      refine ⟨isValid_iff.mpr ⟨hday, hhour, Nat.succ_lt_succ hroom, Nat.succ_pos 59⟩, ?_, ?_⟩
      · simp only [toUnix]
        omega
      · dsimp only [Before]
        omega
    case isFalse hfull =>
      split
      case isTrue hroom =>
        refine ⟨isValid_iff.mpr ⟨hday, Nat.succ_lt_succ hroom, Nat.succ_pos 59, Nat.succ_pos 59⟩,
          ?_, ?_⟩
        · simp only [toUnix]
          omega
        · dsimp only [Before]
          omega
      case isFalse hfull =>
        refine ⟨nextDay_isValid h, ?_, before_nextDay h⟩
        rw [toUnix_nextDay h, toUnix]
        omega

/-- The count goes up by one with every second. -/
theorem toUnix_next (h : t.isValid = true) : t.next.toUnix = t.toUnix + 1 :=
  (next_spec h).2.1

theorem Before.trans (h : t.Before u) (hu : u.Before v) : t.Before v := by
  unfold Before at *
  omega

theorem Before.asymm (h : t.Before u) : ¬ u.Before t := by
  unfold Before at *
  omega

/-! ## A run of the clock -/

theorem later_isValid (h : t.isValid = true) : (later n t).isValid = true := by
  induction n generalizing t with
  | zero => exact h
  | succ n ih => exact ih (next_spec h).1

theorem toUnix_later (h : t.isValid = true) : (later n t).toUnix = t.toUnix + n := by
  induction n generalizing t with
  | zero => exact (Int.add_zero _).symm
  | succ n ih =>
      rw [later, ih (next_spec h).1, toUnix_next h]
      omega

theorem before_later (h : t.isValid = true) (hn : 0 < n) : t.Before (later n t) := by
  obtain ⟨hvalid, -, hforward⟩ := next_spec h
  induction n generalizing t with
  | zero => exact absurd hn (Nat.lt_irrefl 0)
  | succ n ih =>
      cases n with
      | zero => exact hforward
      | succ n =>
          obtain ⟨hvalid', -, hforward'⟩ := next_spec hvalid
          exact hforward.trans (ih hvalid (Nat.succ_pos n) hvalid' hforward')

end

/-! ## Dates read back from days -/

/-- The year of an era, from its centuries, its leap periods in the century and its years in the
period.  The first estimates may be one too large; then a correction is one, too. -/
theorem yearOfEra_eq {c q r doy doe : Nat} (hc : c < 4) (hq : q < 25) (hr : r < 4)
    (hdoy : doy ≤ 365) (hleap : doy = 365 → r = 3 ∧ (q < 24 ∨ c = 3))
    (hdoe : doe = 36524 * c + 1461 * q + 365 * r + doy) :
    (doe - doe / 1460 + doe / 36524 - doe / 146096) / 365 = 100 * c + 4 * q + r := by
  have hperiods : doe / 1460 = 25 * c + q + (24 * c + q + 365 * r + doy) / 1460 := by omega
  -- The last day of an era is the one day whose centuries come out as four.
  have hcenturies : doe / 36524 = c + doe / 146096 := by
    by_cases hlast : doe = 146096
    · subst hlast
      omega
    · have hearlier : doe / 146096 = 0 := by omega
      omega
  by_cases hbelow : 24 * c + q + 365 * r + doy < 1460
  · have hnone : (24 * c + q + 365 * r + doy) / 1460 = 0 := Nat.div_eq_of_lt hbelow
    omega
  · have hone : (24 * c + q + 365 * r + doy) / 1460 = 1 := by omega
    omega

/-- The days of an era that lie before one of its years. -/
def daysOfEra (k : Nat) : Nat :=
  365 * k + k / 4 - k / 100

theorem yearOfEra_daysOfEra {k doy : Nat} (hk : k < 400) (hdoy : doy ≤ 365)
    (hleap : doy = 365 → k % 4 = 3 ∧ (k % 100 ≠ 99 ∨ k = 399)) {doe : Nat}
    (hdoe : doe = daysOfEra k + doy) :
    (doe - doe / 1460 + doe / 36524 - doe / 146096) / 365 = k := by
  have hyear : k = 100 * (k / 100) + 4 * (k % 100 / 4) + k % 4 := by omega
  have hquarter : k / 4 = 25 * (k / 100) + k % 100 / 4 := by omega
  have hlast : doy = 365 → k % 4 = 3 ∧ (k % 100 / 4 < 24 ∨ k / 100 = 3) := by
    intro h
    have hparts := hleap h
    omega
  have hparts : doe = 36524 * (k / 100) + 1461 * (k % 100 / 4) + 365 * (k % 4) + doy := by
    rw [hdoe, daysOfEra]
    omega
  rw [yearOfEra_eq (by omega) (by omega) (by omega) hdoy hlast hparts]
  exact hyear.symm

/-- The date of a day, from the era, the year in it and the day in that. -/
theorem dateOfDays_eq {era : Int} {k doy shifted : Nat} (hk : k < 400) (hdoy : doy ≤ 365)
    (hleap : doy = 365 → k % 4 = 3 ∧ (k % 100 ≠ 99 ∨ k = 399))
    (hshifted : (5 * doy + 2) / 153 = shifted) :
    dateOfDays (era * 146097 + (daysOfEra k + doy : Nat) - 719468) =
      (if (if shifted < 10 then shifted + 3 else shifted - 9) ≤ 2 then era * 400 + k + 1
        else era * 400 + k,
        if shifted < 10 then shifted + 3 else shifted - 9,
        doy - (153 * shifted + 2) / 5 + 1) := by
  have hbound : daysOfEra k + doy < 146097 := by
    unfold daysOfEra
    omega
  have hera : (era * 146097 + (daysOfEra k + doy : Nat) - 719468 + 719468) / 146097 = era := by
    omega
  have hdoe : ((era * 146097 + (daysOfEra k + doy : Nat) - 719468 + 719468) % 146097).toNat =
      daysOfEra k + doy := by
    omega
  have hday : daysOfEra k + doy - (365 * k + k / 4 - k / 100) = doy :=
    Nat.add_sub_cancel_left _ doy
  simp only [dateOfDays, hera, hdoe, yearOfEra_daysOfEra hk hdoy hleap rfl, hday, hshifted]

section
variable {y : Int} {m d : Nat}

/-- Only a leap day is the 366th of its March year. -/
theorem dayOfMarchYear_le (hm : 1 ≤ m ∧ m ≤ 12) (hd : d ≤ daysInMonth y m) :
    dayOfMarchYear m d ≤ 365 ∧ (dayOfMarchYear m d = 365 → m = 2 ∧ isLeap y = true) := by
  obtain ⟨h1, h12⟩ := hm
  unfold dayOfMarchYear
  by_cases hfeb : m = 2
  · subst hfeb
    by_cases hleap : isLeap y = true
    · simp only [daysInMonth, if_pos hleap] at hd
      exact ⟨by omega, fun _ => ⟨rfl, hleap⟩⟩
    · simp only [daysInMonth, if_neg hleap] at hd
      omega
  · interval_cases m <;> simp only [daysInMonth] at hd <;> omega

/-- Five months have 153 days, so the days behind the first of March give the month. -/
theorem monthOfDay_eq (hm : 1 ≤ m ∧ m ≤ 12) (h1 : 1 ≤ d) (hd : d ≤ daysInMonth y m) :
    (5 * dayOfMarchYear m d + 2) / 153 = (m + 9) % 12 := by
  have hmost := (dayOfMarchYear_le hm hd).1
  obtain ⟨hlow, hhigh⟩ := hm
  unfold dayOfMarchYear at hmost ⊢
  by_cases hfeb : m = 2
  · subst hfeb
    omega
  · interval_cases m <;> simp only [daysInMonth] at hd <;> omega

theorem dateOfDays_daysFromDate (hm : 1 ≤ m ∧ m ≤ 12) (h1 : 1 ≤ d) (hd : d ≤ daysInMonth y m) :
    dateOfDays (daysFromDate y m d) = (y, m, d) := by
  obtain ⟨hdoy, hlast⟩ := dayOfMarchYear_le hm hd
  obtain ⟨k, hk⟩ : ∃ k : Nat, marchYear y m % 400 = k := ⟨(marchYear y m % 400).toNat, by omega⟩
  -- The March year that ends with a leap day has the number before that of the leap year.
  have hleap : dayOfMarchYear m d = 365 → k % 4 = 3 ∧ (k % 100 ≠ 99 ∨ k = 399) := by
    intro h
    obtain ⟨rfl, hfeb⟩ := hlast h
    have hyear : marchYear y 2 = y - 1 := rfl
    rw [isLeap_iff] at hfeb
    omega
  have hdays : daysFromDate y m d =
      marchYear y m / 400 * 146097 + (daysOfEra k + dayOfMarchYear m d : Nat) - 719468 := by
    rw [daysFromDate_eq h1, daysBeforeYear_eq, hk, daysOfEra]
    omega
  have hmonth : (if (m + 9) % 12 < 10 then (m + 9) % 12 + 3 else (m + 9) % 12 - 9) = m := by
    split <;> omega
  have hyear : (if m ≤ 2 then marchYear y m / 400 * 400 + k + 1
      else marchYear y m / 400 * 400 + k) = y := by
    unfold marchYear at hk ⊢
    split <;> omega
  have hday : dayOfMarchYear m d - (153 * ((m + 9) % 12) + 2) / 5 + 1 = d := by
    unfold dayOfMarchYear
    omega
  rw [hdays, dateOfDays_eq (by omega) hdoy hleap (monthOfDay_eq hm h1 hd), hmonth, hyear, hday]

end

/-! ## The count and the clock -/

section
variable {t u : CalendarTime}

/-- A time is read back from its count. -/
theorem ofUnix_toUnix (h : t.isValid = true) : ofUnix t.toUnix = t := by
  obtain ⟨⟨h1, hd⟩, hhour, hminute, hsecond⟩ := isValid_iff.mp h
  have hdays : t.toUnix / 86400 = daysFromDate t.year t.month t.day := by
    unfold toUnix
    omega
  have hrest : (t.toUnix % 86400).toNat = t.hour * 3600 + t.minute * 60 + t.second := by
    unfold toUnix
    omega
  have hclock : (t.hour * 3600 + t.minute * 60 + t.second) / 3600 = t.hour ∧
      (t.hour * 3600 + t.minute * 60 + t.second) / 60 % 60 = t.minute ∧
      (t.hour * 3600 + t.minute * 60 + t.second) % 60 = t.second := by
    omega
  rw [ofUnix, hdays, hrest, dateOfDays_daysFromDate (month_of_isValid h) h1 hd]
  simp only [hclock]

theorem toUnix_inj (h : t.isValid = true) (hu : u.isValid = true) :
    t.toUnix = u.toUnix ↔ t = u := by
  constructor
  · intro heq
    rw [← ofUnix_toUnix h, heq, ofUnix_toUnix hu]
  · exact congrArg toUnix

/-- The clock reaches every time of a count that is no less. -/
theorem later_eq (h : t.isValid = true) (hu : u.isValid = true) {n : Nat}
    (hn : u.toUnix = t.toUnix + n) : later n t = u := by
  rw [← toUnix_inj (later_isValid h) hu, toUnix_later h, hn]

theorem before_of_toUnix_lt (h : t.isValid = true) (hu : u.isValid = true)
    (hlt : t.toUnix < u.toUnix) : t.Before u := by
  obtain ⟨n, hn⟩ : ∃ n : Nat, u.toUnix = t.toUnix + n :=
    ⟨(u.toUnix - t.toUnix).toNat, by omega⟩
  rw [← later_eq h hu hn]
  exact before_later h (by omega)

/-- The count keeps the order of the calendar. -/
theorem before_iff_toUnix_lt (h : t.isValid = true) (hu : u.isValid = true) :
    t.Before u ↔ t.toUnix < u.toUnix := by
  constructor
  · intro hbefore
    rcases Int.lt_trichotomy t.toUnix u.toUnix with hlt | heq | hgt
    · exact hlt
    · rw [toUnix_inj h hu] at heq
      rw [heq] at hbefore
      exact absurd hbefore hbefore.asymm
    · exact absurd (before_of_toUnix_lt hu h hgt) hbefore.asymm
  · exact before_of_toUnix_lt h hu

theorem toUnix_epoch : epoch.toUnix = 0 := by
  decide

/-- The count is what the clock needs from the start of 1970. -/
theorem isSecond_iff (h : t.isValid = true) {n : Int} : t.IsSecond n ↔ n = t.toUnix := by
  have hepoch : epoch.isValid = true := by decide
  rw [IsSecond, ← toUnix_inj (later_isValid hepoch) (later_isValid h), toUnix_later hepoch,
    toUnix_later h, toUnix_epoch]
  omega

end

end CertRotation.CalendarTime
