/-
Points in time as certificates write them: two digits of the year or four, then
month, day, hour, minute and second of two digits each, and a `Z`.

A year of two digits from 50 on lies in the twentieth century.  Two readers
share the layout: for display a field may hold a sign in place of a digit, for
validation it may not, and no time before 1970 is admitted.
-/
import CertRotation.Asn1.Der
import CertRotation.Calendar

namespace CertRotation.Asn1.Time

open Text

/-- The two ways to write the year. -/
inductive Form where
  | utc
  | generalized
deriving DecidableEq, Repr

/-- The form that an identifier announces. -/
def Form.ofTag? (tag : Bytes) : Option Form :=
  if tag = Tag.utcTime then some .utc
  else if tag = Tag.generalizedTime then some .generalized
  else none

/-- How many digits the year has. -/
def Form.yearDigits : Form → Nat
  | .utc => 2
  | .generalized => 4

/-- The year that the written digits stand for. -/
def Form.expandYear : Form → Int → Int
  | .utc, y => if 50 ≤ y then y + 1900 else y + 2000
  | .generalized, y => y

/-- Octets as characters, one for one. -/
def chars (s : Bytes) : List Char :=
  s.map fun b => Char.ofNat b.toNat

/-- A whole number with an optional sign. -/
def signed? : List Char → Option Int
  | '-' :: s => (Decimal.digits? s).map fun n => -(n : Int)
  | '+' :: s => (Decimal.digits? s).map fun n => (n : Int)
  | s => (Decimal.digits? s).map fun n => (n : Int)

/-- The two characters at a position. -/
def pairAt (s : List Char) (i : Nat) : List Char :=
  (s.drop i).take 2

/-- A time whose year and later fields are read by the given readers. -/
def fields? (form : Form) (year? : List Char → Option Int) (field? : List Char → Option Nat)
    (content : Bytes) : Option CalendarTime :=
  let s := chars content
  let k := form.yearDigits
  if s.length ≠ k + 11 ∨ s.getLast? ≠ some 'Z' then none
  else
    match year? (s.take k), field? (pairAt s k), field? (pairAt s (k + 2)),
        field? (pairAt s (k + 4)), field? (pairAt s (k + 6)), field? (pairAt s (k + 8)) with
    | some y, some mo, some d, some h, some mi, some se =>
      let t : CalendarTime := ⟨form.expandYear y, mo, d, h, mi, se⟩
      if t.isValid then some t else none
    | _, _, _, _, _, _ => none

/-- The reading for display, where a sign may stand in a field. -/
def loose? (form : Form) (content : Bytes) : Option CalendarTime :=
  fields? form signed? (Decimal.unsigned? 99) content

/-- The reading for validation: digits only, from 1970 on. -/
def strict? (form : Form) (content : Bytes) : Option CalendarTime :=
  (fields? form (fun s => (Decimal.digits? s).map fun n => (n : Int)) Decimal.digits? content).filter
    (1970 ≤ ·.year)

end CertRotation.Asn1.Time
