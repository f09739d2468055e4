/-
# `Proofs.Calendar.Text` — what the text of a time spells

A text spells a date and a time of day if it holds their digits in their places, with the marks
between them and the offset of universal time behind:

    t.isValid    →  (Spelled t.write u  ↔  u = t)     (`spelled_write_iff`)
    Spelled s t  →  read? s = some t                  (`read?_of_spelled`)

Every piece but the year has a known length, so the pieces are told apart from the end
(`SpellsField.peel`), and the year is what is left.  They are also told apart by the marks, which are
no digits; this is how a text is read.
-/
import CertRotation.Calendar.Reading
import CertRotation.Proofs.Calendar.Count
import CertRotation.Proofs.Text.Blank
import CertRotation.Proofs.Text.Decimal

namespace CertRotation.CalendarTime

open Text Decimal

/-! ## Spellings -/

/-- A text spells a year: four digits from 0 to 9999, and at least four behind a sign outside. -/
inductive SpellsYear : List Char → Int → Prop where
  | digits {s : List Char} {n : Nat} : Spells s n → s.length = 4 → SpellsYear s n
  | before {s : List Char} {n : Nat} :
      Spells s n → 4 ≤ s.length → 0 < n → SpellsYear ('-' :: s) (-n)
  | after {s : List Char} {n : Nat} :
      Spells s n → 4 ≤ s.length → 9999 < n → SpellsYear ('+' :: s) n

/-- A text spells a number with two digits. -/
def SpellsField (s : List Char) (n : Nat) : Prop :=
  s.length = 2 ∧ Spells s n

/-- A text spells a date and a time of day, in universal time. -/
def Spelled (s : List Char) (t : CalendarTime) : Prop :=
  ∃ year month day hour minute second : List Char,
    s = year ++ ('-' :: month) ++ ('-' :: day) ++ ('T' :: hour) ++ (':' :: minute) ++
      (':' :: second) ++ "+00:00".toList ∧
    SpellsYear year t.year ∧ SpellsField month t.month ∧ SpellsField day t.day ∧
      SpellsField hour t.hour ∧ SpellsField minute t.minute ∧ SpellsField second t.second

/-! ## A text spells one time -/

theorem SpellsYear.int? {s : List Char} {y : Int} (h : SpellsYear s y) :
    Decimal.int? s = some y := by
  cases h with
  | digits h => exact int?_of_spells h
  | before h => rw [Decimal.int?, if_pos rfl, digits?_eq_some_iff.mpr h, Option.map_some]
  | after h =>
      rw [Decimal.int?, if_neg (by decide), if_pos rfl, digits?_eq_some_iff.mpr h, Option.map_some]

theorem SpellsYear.unique {s : List Char} {y y' : Int} (h : SpellsYear s y)
    (h' : SpellsYear s y') : y = y' :=
  Option.some.inj (h.int?.symm.trans h'.int?)

/-- A mark and two digits come off the end of a text in one way only. -/
theorem SpellsField.peel {x y s s' : List Char} {c : Char} {m n : Nat} (hm : SpellsField s m)
    (hn : SpellsField s' n) (h : x ++ (c :: s) = y ++ (c :: s')) : x = y ∧ m = n := by
  have hlength : (c :: s).length = (c :: s').length := by
    rw [List.length_cons, List.length_cons, hm.1, hn.1]
  obtain ⟨hfront, hpiece⟩ := List.append_inj' h hlength
  cases hpiece
  exact ⟨hfront, hm.2.unique hn.2⟩

theorem Spelled.unique {s : List Char} {t u : CalendarTime} (ht : Spelled s t)
    (hu : Spelled s u) : t = u := by
  obtain ⟨y, mo, d, h, mi, se, hs, hy, hmo, hd, hh, hmi, hse⟩ := ht
  obtain ⟨y', mo', d', h', mi', se', hs', hy', hmo', hd', hh', hmi', hse'⟩ := hu
  obtain ⟨hfront, hsecond⟩ := hse.peel hse' (List.append_cancel_right (hs.symm.trans hs'))
  obtain ⟨hfront, hminute⟩ := hmi.peel hmi' hfront
  obtain ⟨hfront, hhour⟩ := hh.peel hh' hfront
  obtain ⟨hfront, hday⟩ := hd.peel hd' hfront
  obtain ⟨hfront, hmonth⟩ := hmo.peel hmo' hfront
  -- What is left in front is the year.
  rw [hfront] at hy
  have hyear := hy.unique hy'
  cases t
  cases u
  rw [mk.injEq]
  exact ⟨hyear, hmonth, hday, hhour, hminute, hsecond⟩

/-! ## What is written -/

theorem spellsYear_writeYear (y : Int) : SpellsYear (writeYear y) y := by
  unfold writeYear
  split
  case isTrue hyear =>
    have hspells := SpellsYear.digits (spells_padded 4 y.toNat)
      (length_padded (Nat.succ_pos 3) (by omega))
    rwa [Int.toNat_of_nonneg hyear.1] at hspells
  case isFalse hyear =>
    split
    case isTrue hneg =>
      have hspells := SpellsYear.before (spells_padded 4 y.natAbs) (le_length_padded 4 _) (by omega)
      rwa [Int.ofNat_natAbs_of_nonpos (Int.le_of_lt hneg), Int.neg_neg] at hspells
    case isFalse hneg =>
      have hspells := SpellsYear.after (spells_padded 4 y.natAbs) (le_length_padded 4 _) (by omega)
      rwa [Int.natAbs_of_nonneg (Int.not_lt.mp hneg)] at hspells

theorem spelled_write {t : CalendarTime} (h : t.isValid = true) : Spelled t.write t := by
  have hfield : ∀ n ∈ [t.month, t.day, t.hour, t.minute, t.second], SpellsField (padded 2 n) n := by
    intro n hn
    exact ⟨length_padded (Nat.succ_pos 1) (fields_lt h n hn), spells_padded 2 n⟩
  simp only [List.forall_mem_cons, List.not_mem_nil, false_implies, implies_true, and_true] at hfield
  refine ⟨writeYear t.year, padded 2 t.month, padded 2 t.day, padded 2 t.hour, padded 2 t.minute,
    padded 2 t.second, ?_, spellsYear_writeYear t.year, hfield⟩
  simp only [write, writeClock, List.append_assoc, List.cons_append, List.nil_append]

/-- The text of a time spells that time and no other. -/
theorem spelled_write_iff {t u : CalendarTime} (h : t.isValid = true) :
    Spelled t.write u ↔ u = t := by
  constructor
  · intro hu
    exact hu.unique (spelled_write h)
  · rintro rfl
    exact spelled_write h

/-- What the text of a time is written with. -/
def isTimeChar (c : Char) : Bool :=
  isDigit c || "-+:T".toList.contains c

theorem all_isTimeChar_of_spells {s : List Char} {n : Nat} (h : Spells s n) :
    s.all isTimeChar = true := by
  refine List.all_eq_true.mpr fun c hc => ?_
  rw [isTimeChar, h.digits c hc, Bool.true_or]

theorem SpellsYear.all_isTimeChar {s : List Char} {y : Int} (h : SpellsYear s y) :
    s.all isTimeChar = true := by
  cases h with
  | digits h => exact all_isTimeChar_of_spells h
  | before h => exact List.all_cons.trans (all_isTimeChar_of_spells h)
  | after h => exact List.all_cons.trans (all_isTimeChar_of_spells h)

theorem all_isTimeChar_write (t : CalendarTime) : t.write.all isTimeChar = true := by
  have hyear := (spellsYear_writeYear t.year).all_isTimeChar
  have hfield (n : Nat) := all_isTimeChar_of_spells (spells_padded 2 n)
  simp only [write, writeClock, List.all_append, hyear, hfield]
  decide

/-! ## Reading -/

/-- A mark is no part of a year, unless it is a sign. -/
theorem SpellsYear.not_mem {s : List Char} {y : Int} (h : SpellsYear s y) {c : Char}
    (hc : isDigit c = false) (hminus : c ≠ '-') (hplus : c ≠ '+') : c ∉ s := by
  cases h with
  | digits h => exact h.not_mem hc
  | before h => exact List.not_mem_cons_of_ne_of_not_mem hminus (h.not_mem hc)
  | after h => exact List.not_mem_cons_of_ne_of_not_mem hplus (h.not_mem hc)

section
variable {a b c : List Char} {n k : Nat}

theorem readDate?_of_spells {y : Int} (ha : SpellsYear a y) (hb : SpellsField b n)
    (hc : SpellsField c k) : readDate? (a ++ '-' :: b ++ '-' :: c) = some (y, n, k) := by
  have hday : splitLast '-' (a ++ '-' :: b ++ '-' :: c) = some (a ++ '-' :: b, c) :=
    splitLast_eq_some_iff.mpr ⟨rfl, hc.2.not_mem (by decide)⟩
  have hmonth : splitLast '-' (a ++ '-' :: b) = some (a, b) :=
    splitLast_eq_some_iff.mpr ⟨rfl, hb.2.not_mem (by decide)⟩
  simp only [readDate?, hday, hmonth, ha.int?, digits?_eq_some_iff.mpr hb.2,
    digits?_eq_some_iff.mpr hc.2, Option.bind_eq_bind, Option.bind_some]

theorem readClock?_of_spells {m : Nat} (ha : SpellsField a m) (hb : SpellsField b n)
    (hc : SpellsField c k) : readClock? (a ++ ':' :: b ++ ':' :: c) = some (m, n, k) := by
  have hpieces : splitAll ':' (a ++ ':' :: b ++ ':' :: c) = [a, b, c] := by
    rw [List.append_assoc, List.cons_append, splitAll_cons (ha.2.not_mem (by decide)),
      splitAll_cons (hb.2.not_mem (by decide)), splitAll_of_not_mem (hc.2.not_mem (by decide))]
  simp only [readClock?, hpieces, digits?_eq_some_iff.mpr ha.2, digits?_eq_some_iff.mpr hb.2,
    digits?_eq_some_iff.mpr hc.2, Option.bind_eq_bind, Option.bind_some]

end

/-- A text that spells a time is read as that time. -/
theorem read?_of_spelled {s : List Char} {t : CalendarTime} (h : Spelled s t) :
    read? s = some t := by
  obtain ⟨year, month, day, hour, minute, second, rfl, hyear, hmonth, hday, hhour, hminute,
    hsecond⟩ := h
  have hdate : 'T' ∉ year ++ '-' :: month ++ '-' :: day := by
    simp only [List.mem_append, List.mem_cons, not_or]
    exact ⟨⟨hyear.not_mem (by decide) (by decide) (by decide), by decide, hmonth.2.not_mem (by decide)⟩,
      by decide, hday.2.not_mem (by decide)⟩
  have hclock : '+' ∉ hour ++ ':' :: minute ++ ':' :: second := by
    simp only [List.mem_append, List.mem_cons, not_or]
    exact ⟨⟨hhour.2.not_mem (by decide), by decide, hminute.2.not_mem (by decide)⟩, by decide,
      hsecond.2.not_mem (by decide)⟩
  have hparts : year ++ ('-' :: month) ++ ('-' :: day) ++ ('T' :: hour) ++ (':' :: minute) ++
      (':' :: second) ++ "+00:00".toList =
      (year ++ '-' :: month ++ '-' :: day) ++
        'T' :: ((hour ++ ':' :: minute ++ ':' :: second) ++ '+' :: "00:00".toList) := by
    simp
  simp only [hparts, read?, splitFirst_append hdate, splitFirst_append hclock,
    readDate?_of_spells hyear hmonth hday, readClock?_of_spells hhour hminute hsecond,
    Option.bind_eq_bind, Option.bind_some]

end CertRotation.CalendarTime
