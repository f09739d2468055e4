/-
Times in the digits that certificates write them in: all fields padded with zeros, and of the year
as many digits as the form has.
-/
import CertRotation.Asn1.Time

namespace CertRotation.Asn1.Time

open Text

/-- The identifier of a form. -/
def Form.tag : Form → Bytes
  | .utc => Tag.utcTime
  | .generalized => Tag.generalizedTime

/-- The years that a form can write: a hundred of them, or those of four digits. -/
def Form.Covers : Form → Int → Prop
  | .utc, y => 1950 ≤ y ∧ y ≤ 2049
  | .generalized, y => 0 ≤ y ∧ y ≤ 9999

instance : (form : Form) → (y : Int) → Decidable (form.Covers y)
  | .utc, y => inferInstanceAs (Decidable (1950 ≤ y ∧ y ≤ 2049))
  | .generalized, y => inferInstanceAs (Decidable (0 ≤ y ∧ y ≤ 9999))

/-- Characters as octets, one for one. -/
def octets (s : List Char) : Bytes :=
  s.map fun c => UInt8.ofNat c.toNat

/-- The last digits of a year, as many as the form has. -/
def Form.writeYear (form : Form) (y : Int) : List Char :=
  Decimal.padded form.yearDigits (y.toNat % Nat.pow 10 form.yearDigits)

/-- The octets of a time. -/
def Form.write (form : Form) (t : CalendarTime) : Bytes :=
  octets (form.writeYear t.year
    ++ [t.month, t.day, t.hour, t.minute, t.second].flatMap (Decimal.padded 2) ++ ['Z'])

end CertRotation.Asn1.Time
