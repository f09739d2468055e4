/-
The line for logs, read back.

The names in a line are whatever a certificate says, so the line is read from the front: a name ends at
its closing quote, a number and a time at the mark behind them.  The parts are read loosely; what is
found in a text counts only if it is written as that very text.
-/
import CertRotation.Calendar.Reading
import CertRotation.Text.Quoted.Reading
import CertRotation.X509.Description

namespace CertRotation.Text

/-- A control character. -/
def isControl (c : Char) : Bool :=
  c.toNat < 0x20 || (0x7F ≤ c.toNat && c.toNat < 0xA0)

/-- A text that shows on one line: it has no control character, and none that separates lines or
paragraphs. -/
def IsSingleLine (s : List Char) : Prop :=
  ∀ c ∈ s, isControl c = false ∧ c ≠ '\u2028' ∧ c ≠ '\u2029'

end CertRotation.Text

namespace CertRotation.X509.Description

open Text

/-- The texts of the five fields in a line: both names, the serial number and both bounds. -/
def fields? (s : List Char) : Option (List Char × List Char × List Char × List Char × List Char) := do
  let s ← "subject=".toList.isPrefixOf? s
  let (subject, s) ← Quoted.read? s
  let s ← " issuer=".toList.isPrefixOf? s
  let (issuer, s) ← Quoted.read? s
  let s ← " serial=".toList.isPrefixOf? s
  let (serial, s) ← splitFirst ' ' s
  let s ← "valid=[".toList.isPrefixOf? s
  let (notBefore, s) ← splitFirst ' ' s
  let s ← "~ ".toList.isPrefixOf? s
  let (notAfter, _) ← splitFirst ']' s
  some (subject, issuer, serial, notBefore, notAfter)

/-- The description that the fields in a text make up. -/
def found? (s : List Char) : Option Description := do
  let (subject, issuer, serial, notBefore, notAfter) ← fields? s
  some
    { subject := String.ofList subject
      issuer := String.ofList issuer
      serial := ← Decimal.digits? serial
      notBefore := (← CalendarTime.read? notBefore).toUnix
      notAfter := (← CalendarTime.read? notAfter).toUnix }

/-- The description that a text is the line of. -/
def read? (text : String) : Option Description :=
  (found? text.toList).filter (·.write = text)

end CertRotation.X509.Description
