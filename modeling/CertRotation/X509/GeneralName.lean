/-
The names that a certificate presents, and matching them.

A DNS name matches a reference without regard to the case of ASCII letters; a
presented name may begin with a wildcard label that stands for exactly one
label of the reference.  An address matches octet by octet.
-/
import CertRotation.Net.ServerName
import CertRotation.X509.Certificate

namespace CertRotation.X509

open Asn1

/-- A presented name. -/
inductive GeneralName where
  | dns (name : Bytes)
  | directory
  | ip (address : Bytes)
  | uri (text : Bytes)
  | unsupported (tag : Nat)
deriving DecidableEq, Repr

namespace GeneralName

/-- Takes a name off the front. -/
def read (s : Bytes) : Except Fault (GeneralName × Bytes) :=
  match next? .path s with
  | none => .error .badDer
  | some (t, r) =>
    match t.ident with
    | [0x82] => .ok (.dns t.content, r)
    | [0xA4] => .ok (.directory, r)
    | [0x87] => .ok (.ip t.content, r)
    | [0x86] => .ok (.uri t.content, r)
    | [0xA0] => .ok (.unsupported 0, r)
    | [0x81] => .ok (.unsupported 1, r)
    | [0xA3] => .ok (.unsupported 3, r)
    | [0xA5] => .ok (.unsupported 5, r)
    | [0x88] => .ok (.unsupported 8, r)
    | _ => .error .badDer

/-- Reads names to the end, of at most `n`; a damage ends the list. -/
def readAllOf : Nat → Bytes → List (Except Fault GeneralName)
  | _, [] => []
  | 0, _ => []
  | n + 1, s =>
    match read s with
    | .ok (g, r) => .ok g :: readAllOf n r
    | .error f => [.error f]

/-- The alternative names of a certificate. -/
def alternatives (c : Certificate) : List (Except Fault GeneralName) :=
  match c.extensions.subjectAltName with
  | some s => readAllOf s.length s
  | none => []

/-- Whether the names up to a damage are whole. -/
def isDamaged (l : List (Except Fault GeneralName)) : Bool :=
  l.any fun
    | .error _ => true
    | .ok _ => false

/-- All names: the alternatives, then the subject as a directory name. -/
def allOf (c : Certificate) : List (Except Fault GeneralName) :=
  let names := alternatives c
  if isDamaged names then names else names ++ [.ok .directory]

/-! ## DNS names -/

/-- What a DNS name is used for. -/
inductive DnsRole where
  | presented
  | constraint
deriving DecidableEq, Repr

/-- The pieces between points. -/
def dnsLabels (s : List Char) : List (List Char) :=
  Text.splitAll '.' s

/-- Labels that form a name whose last label is not all digits. -/
def areLabels (ls : List (List Char)) : Bool :=
  !ls.isEmpty && ls.all Net.ServerName.isLabel && !(ls.getLast?.any (·.all Char.isDigit))

/-- Whether a text can be presented as a DNS name, or can constrain one.  A wildcard
needs two labels after it; a constraint may be empty or begin with a point. -/
def isDnsId (role : DnsRole) (s : List Char) : Bool :=
  s.length ≤ 253 &&
    match role, s with
    | .constraint, [] => true
    | .constraint, '.' :: r => areLabels (dnsLabels r)
    | .constraint, s => areLabels (dnsLabels s)
    | .presented, '*' :: '.' :: r => areLabels (dnsLabels r) && 2 ≤ (dnsLabels r).length
    | .presented, s => areLabels (dnsLabels s)

/-- ASCII letters in lower case. -/
def lower (s : List Char) : List Char :=
  s.map Char.toLower

/-- Compares a presented name, which may begin with a wildcard, with a whole name. -/
def sameDns (presented reference : List Char) : Bool :=
  match presented with
  | '*' :: r =>
    match reference with
    | [] => false
    | _ :: t => lower r == lower (t.dropWhile (· != '.'))
  | _ => lower presented == lower reference

/-- Whether a presented name is the reference, which may end in a point. -/
def matchesReference (presented reference : List Char) : Bool :=
  isDnsId .presented presented &&
    sameDns presented (if reference.getLast? = some '.' then reference.dropLast else reference)

/-- Whether a presented name lies within a constraint. -/
def withinConstraint (presented constraint : List Char) : Except Fault Bool :=
  if !isDnsId .presented presented then .error .malformedDnsIdentifier
  else if !isDnsId .constraint constraint then .error .malformedNameConstraint
  else if constraint.isEmpty then .ok true
  else if constraint.length < presented.length then
    let extra := presented.length - constraint.length
    if constraint.head? = some '.' then .ok (sameDns (presented.drop extra) constraint)
    else
      match presented.drop (extra - 1) with
      | '.' :: r => .ok (sameDns r constraint)
      | _ => .ok false
  else .ok (sameDns presented constraint)

/-! ## Addresses -/

/-- The number of leading one bits of an octet whose ones all lead. -/
def maskOnes? (m : UInt8) : Option Nat :=
  [(0x00, 0), (0x80, 1), (0xC0, 2), (0xE0, 3), (0xF0, 4), (0xF8, 5), (0xFC, 6), (0xFE, 7),
    (0xFF, 8)].lookup m

/-- Compares an address with a network octet by octet; `ended` after a zero of the mask. -/
def inNetwork (ended : Bool) : Bytes → Bytes → Bytes → Except Fault Bool
  | n :: ns, a :: as, m :: ms =>
    if ended && m != 0 then .error .invalidNetworkMaskConstraint
    else
      match maskOnes? m with
      | none => .error .invalidNetworkMaskConstraint
      | some ones =>
        if (n ^^^ a) &&& m != 0 then .ok false else inNetwork (ended || ones < 8) ns as ms
  | _, _, _ => .ok true

/-- Whether an address lies within a constraint: an address and a mask. -/
def withinNetwork (address constraint : Bytes) : Except Fault Bool :=
  let half := constraint.length / 2
  let compare := inNetwork false address (constraint.take half) (constraint.drop half)
  match address.length, constraint.length with
  | 4, 8 | 16, 32 => compare
  | 4, 32 | 16, 8 => .ok false
  | 4, _ | 16, _ => .error .invalidNetworkMaskConstraint
  | _, _ => .error .badDer

/-! ## The name of a server -/

/-- Octets as characters, one for one. -/
def chars (s : Bytes) : List Char :=
  Time.chars s

/-- Whether a presented name is the one asked for. -/
def isServer (name : Net.ServerName) : GeneralName → Bool
  | .dns presented =>
    match name with
    | .dns n => matchesReference (chars presented) n.toList
    | .ip _ => false
  | .ip presented =>
    match name with
    | .dns _ => false
    | .ip a => presented == a.octets
  | _ => false

/-- Looks for the server's name; a damage met before it is an error. -/
def findServer (name : Net.ServerName) : List (Except Fault GeneralName) → Except Fault Unit
  | [] => .error .certNotValidForName
  | .error f :: _ => .error f
  | .ok g :: rest => if isServer name g then .ok () else findServer name rest

end GeneralName

/-- Whether a certificate is one for a server's name. -/
def Certificate.verifyName (c : Certificate) (name : Net.ServerName) : Except Fault Unit :=
  GeneralName.findServer name (GeneralName.alternatives c)

end CertRotation.X509
