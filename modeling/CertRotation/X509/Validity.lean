/-
The two bounds of a validity, by where they stand in a certificate.

A certificate is three values, of which the first is signed.  The signed part may begin with a
version; its fourth value without that is the validity, which holds the two bounds.
-/
import CertRotation.Asn1.WrittenTime
import CertRotation.X509.Description

namespace CertRotation.X509

open Asn1

/-- The values in a sequence. -/
def members? (t : Tlv) : Option (List Tlv) :=
  (t.expect? Tag.sequence).bind (all? .display)

/-- The two times of a validity. -/
def bounds? (der : Bytes) : Option (Tlv × Tlv) := do
  let (certificate, _) ← next? .display der
  let signed :: _ ← members? certificate | none
  let fields ← members? signed
  let _ :: _ :: _ :: validity :: _ := (takeOptional (Tag.explicit 0) fields).2 | none
  let [notBefore, notAfter] ← members? validity | none
  some (notBefore, notAfter)

/-- One of the two. -/
inductive Bound where
  | notBefore
  | notAfter
deriving DecidableEq, Repr

namespace Bound

/-- The count of seconds that a description gives for a bound. -/
def seconds (b : Bound) (d : Description) : Int :=
  match b with
  | .notBefore => d.notBefore
  | .notAfter => d.notAfter

/-- The text that the line for logs shows for a bound. -/
def shown (b : Bound) (d : Description) : List Char :=
  Description.writeTime (b.seconds d)

/-- The value that stands for a bound. -/
def value? (b : Bound) (der : Bytes) : Option Tlv :=
  (bounds? der).map fun (first, last) =>
    match b with
    | .notBefore => first
    | .notAfter => last

/-- The time that a certificate carries for a bound. -/
def time? (b : Bound) (der : Bytes) : Option CalendarTime :=
  (b.value? der).bind Description.time?

/-- A certificate writes a time for a bound, in one of the two forms. -/
def Written (b : Bound) (form : Time.Form) (t : CalendarTime) (der : Bytes) : Prop :=
  ∃ v, b.value? der = some v ∧ v.ident = form.tag ∧ v.content = form.write t

instance (b : Bound) (form : Time.Form) (t : CalendarTime) (der : Bytes) :
    Decidable (b.Written form t der) :=
  decidable_of_iff
    ((b.value? der).any (fun v => v.ident == form.tag && v.content == form.write t) = true) (by
      simp only [Option.any_eq_true, Bool.and_eq_true, beq_iff_eq, Written])

end Bound
end CertRotation.X509
