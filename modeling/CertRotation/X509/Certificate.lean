/-
Certificates as path validation reads them.

Only what a decision needs is taken apart: the signed octets with their
signature, the two names, the validity, the public key and the extensions that
carry constraints.  Names and most contents stay as they are encoded, and are
compared octet by octet.
-/
import CertRotation.Asn1.Time
import CertRotation.X509.Fault

namespace CertRotation.X509

open Asn1

/-! ## Reading with faults -/

/-- Takes a value with the given identifier off the front. -/
def expect (tag : Bytes) (s : Bytes) : Except Fault (Bytes × Bytes) :=
  match next? .path s with
  | some (t, r) => if t.ident = tag then .ok (t.content, r) else .error .badDer
  | none => .error .badDer

/-- Whether the next octet is the given identifier. -/
def peek (tag : Bytes) (s : Bytes) : Bool :=
  !s.isEmpty && s.take 1 == tag

/-- Reads all of an input: nothing may be left over. -/
def readAll (fault : Fault) (s : Bytes) (f : Bytes → Except Fault (α × Bytes)) : Except Fault α := do
  let (a, rest) ← f s
  if rest.isEmpty then .ok a else .error fault

/-- Reads the content of a value with the given identifier; `fault` also stands for a missing value. -/
def nested (tag : Bytes) (fault : Fault) (s : Bytes) (f : Bytes → Except Fault (α × Bytes)) :
    Except Fault (α × Bytes) :=
  match expect tag s with
  | .error _ => .error fault
  | .ok (content, rest) => (readAll fault content f).map fun a => (a, rest)

/-- A flag, absent when false. -/
def flag (s : Bytes) : Except Fault (Bool × Bytes) :=
  if peek Tag.boolean s then
    nested Tag.boolean (.trailingData "Bool") s fun c =>
      match c with
      | 0xFF :: r => .ok (true, r)
      | 0x00 :: r => .ok (false, r)
      | _ => .error .badDer
  else .ok (false, s)

/-- A number of one octet that is not negative. -/
def octet (s : Bytes) : Except Fault (Nat × Bytes) := do
  let (c, r) ← expect Tag.integer s
  match c with
  | [b] => if b.toNat < 128 then .ok (b.toNat, r) else .error .badDer
  | [0, b] => if 128 ≤ b.toNat then .ok (b.toNat, r) else .error .badDer
  | _ => .error .badDer

/-- A bit string without unused bits. -/
def bitString (s : Bytes) : Except Fault (Bytes × Bytes) :=
  nested Tag.bitString (.trailingData "BitString") s fun c =>
    match c with
    | 0 :: bits => .ok (bits, [])
    | _ => .error .badDer

/-! ## Certificates -/

/-- Signed octets, the algorithm and the signature. -/
structure SignedData where
  data : Bytes
  algorithm : Bytes
  signature : Bytes
deriving DecidableEq, Repr

/-- The extensions that carry constraints, each with its content. -/
structure Extensions where
  keyUsage : Option Bytes := none
  subjectAltName : Option Bytes := none
  basicConstraints : Option Bytes := none
  nameConstraints : Option Bytes := none
  distributionPoints : Option Bytes := none
  extendedKeyUsage : Option Bytes := none
deriving DecidableEq, Repr

/-- A certificate taken apart for validation. -/
structure Certificate where
  signed : SignedData
  issuer : Bytes
  validity : Bytes
  subject : Bytes
  publicKey : Bytes
  extensions : Extensions
deriving DecidableEq, Repr

namespace Certificate

/-- An extension as it is encoded. -/
structure Extension where
  id : Bytes
  critical : Bool
  value : Bytes

/-- Reads the fields of one extension. -/
def readExtension (s : Bytes) : Except Fault (Extension × Bytes) := do
  let (id, s) ← expect Tag.oid s
  let (critical, s) ← flag s
  let (value, s) ← expect Tag.octetString s
  return (⟨id, critical, value⟩, s)

/-- Sets a field that may be set once. -/
def setOnce (old : Option Bytes) (new : Except Fault Bytes) : Except Fault (Option Bytes) :=
  match old with
  | some _ => .error .extensionValueInvalid
  | none => new.map some

/-- Adds an extension to those read so far.  An unknown one is an error if it is critical. -/
def remember (e : Extension) (known : Extensions) : Except Fault Extensions :=
  let inSequence : Except Fault Bytes := readAll .badDer e.value (expect Tag.sequence)
  match e.id with
  | [0x55, 0x1D, 15] => (setOnce known.keyUsage (.ok e.value)).map ({ known with keyUsage := · })
  | [0x55, 0x1D, 17] => (setOnce known.subjectAltName inSequence).map ({ known with subjectAltName := · })
  | [0x55, 0x1D, 19] => (setOnce known.basicConstraints inSequence).map ({ known with basicConstraints := · })
  | [0x55, 0x1D, 30] => (setOnce known.nameConstraints inSequence).map ({ known with nameConstraints := · })
  | [0x55, 0x1D, 31] => (setOnce known.distributionPoints inSequence).map ({ known with distributionPoints := · })
  | [0x55, 0x1D, 37] => (setOnce known.extendedKeyUsage inSequence).map ({ known with extendedKeyUsage := · })
  | _ => if e.critical then .error .unsupportedCriticalExtension else .ok known

/-- Reads extensions to the end of their list, which holds at least one and at most `n`. -/
def readExtensions (known : Extensions) : Nat → Bytes → Except Fault Extensions
  | 0, _ => .error .badDer
  | n + 1, s => do
    let (known, s) ← nested Tag.sequence (.trailingData "Extension") s fun c => do
      let (e, c) ← readExtension c
      let known ← remember e known
      return (known, c)
    if s.isEmpty then return known else readExtensions known n s

/-- The extensions at the end of the signed part, if there are any. -/
def readTail (s : Bytes) : Except Fault Extensions :=
  if s.isEmpty then .ok {}
  else
    readAll (.trailingData "CertificateTbsCertificate") s fun s =>
      nested (Tag.explicit 3) (.trailingData "CertificateExtensions") s fun c =>
        nested Tag.sequence (.trailingData "Extension") c fun c =>
          (readExtensions {} (c.length + 1) c).map fun known => (known, [])

/-- Reads the version, which must be the third. -/
def readVersion (s : Bytes) : Except Fault (Unit × Bytes) :=
  nested (Tag.explicit 0) .unsupportedCertVersion s fun c => do
    let (v, c) ← octet c
    if v = 2 then return ((), c) else .error .unsupportedCertVersion

/-- Reads the signed part of a certificate that was signed as stated. -/
def readSigned (signed : SignedData) (s : Bytes) : Except Fault Certificate := do
  let (_, s) ← readVersion s
  let (_, s) ← expect Tag.integer s
  let (algorithm, s) ← expect Tag.sequence s
  if algorithm ≠ signed.algorithm then .error .signatureAlgorithmMismatch
  let (issuer, s) ← expect Tag.sequence s
  let (validity, s) ← expect Tag.sequence s
  let (subject, s) ← expect Tag.sequence s
  let (publicKey, s) ← expect Tag.sequence s
  let extensions ← readTail s
  return ⟨signed, issuer, validity, subject, publicKey, extensions⟩

/-- Splits a certificate into its signed part and the signature over it. -/
def readOuter (s : Bytes) : Except Fault ((Bytes × SignedData) × Bytes) := do
  match next? .path s with
  | none => .error .badDer
  | some (t, r) =>
    if t.ident ≠ Tag.sequence then .error .badDer
    let (algorithm, r) ← expect Tag.sequence r
    let (signature, r) ← bitString r
    return ((t.content, ⟨t.raw, algorithm, signature⟩), r)

/-- The certificate of its encoding. -/
def ofDer (der : Bytes) : Except Fault Certificate := do
  let (tbs, signed) ← readAll (.trailingData "Certificate") der fun s =>
    nested Tag.sequence (.trailingData "SignedData") s readOuter
  readSigned signed tbs

end Certificate

/-! ## Trust anchors -/

/-- What is trusted of a root: its name, its public key and its constraints. -/
structure TrustAnchor where
  subject : Bytes
  publicKey : Bytes
  nameConstraints : Option Bytes
deriving DecidableEq, Repr

namespace TrustAnchor

/-- The anchor of a certificate of the first version, which states no version. -/
def ofFirstVersion (der : Bytes) : Except Fault TrustAnchor :=
  readAll .badDer der fun s =>
    nested Tag.sequence .badDer s fun s => do
      let (anchor, s) ← nested Tag.sequence .badDer s fun s => do
        let (_, s) ← expect Tag.integer s
        let (_, s) ← expect Tag.sequence s
        let (_, s) ← expect Tag.sequence s
        let (_, s) ← expect Tag.sequence s
        let (subject, s) ← expect Tag.sequence s
        let (publicKey, s) ← expect Tag.sequence s
        return ((⟨subject, publicKey, none⟩ : TrustAnchor), s)
      let (_, s) ← expect Tag.sequence s
      let (_, s) ← expect Tag.bitString s
      return (anchor, s)

/-- The anchor of a certificate. -/
def ofCertificate (c : Certificate) : TrustAnchor :=
  ⟨c.subject, c.publicKey, c.extensions.nameConstraints⟩

/-- The anchor of an encoded certificate of the third version or the first. -/
def ofDer (der : Bytes) : Except Fault TrustAnchor :=
  match Certificate.ofDer der with
  | .ok c => .ok (ofCertificate c)
  | .error .unsupportedCertVersion =>
    match ofFirstVersion der with
    | .ok a => .ok a
    | .error _ => .error .badDer
  | .error f => .error f

end TrustAnchor
end CertRotation.X509
