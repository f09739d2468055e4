/-
What logs and metrics say about a certificate: the common names of subject and
issuer, the serial number and the validity.

This reader is meant for display and not for trust.  It reads the whole
certificate so that a damaged one is refused, but it looks at no signature.  A
name without a readable common name shows as empty.
-/
import CertRotation.Asn1.Time
import CertRotation.Text.Quoted

namespace CertRotation.X509

open Asn1 Text

/-- The fields of a certificate that are shown. -/
structure Description where
  subject : String
  issuer : String
  serial : Nat
  notBefore : Int
  notAfter : Int
deriving DecidableEq, Repr

namespace Description

/-! ## Texts of names -/

/-- Characters of the printable string type. -/
def isPrintableType (c : Char) : Bool :=
  c.isAlphanum || " '()+,-./:=?".toList.contains c

/-- UTF-8 read without a check for the shortest form: only the lead octet and the
top bit of each further one are looked at. -/
def looseUtf8? : Bytes → Option (List Char)
  | [] => some []
  | a :: r =>
    if a.toNat < 0x80 then (looseUtf8? r).map (Char.ofNat a.toNat :: ·)
    else
      match r with
      | [] => none
      | b :: s =>
        if a.toNat < 0xC0 || b.toNat < 0x80 then none
        else if a.toNat < 0xE0 then
          (looseUtf8? s).map (Char.ofNat (a.toNat % 32 * 64 + b.toNat % 64) :: ·)
        else
          match s with
          | [] => none
          | c :: t =>
            if c.toNat < 0x80 then none
            else if a.toNat < 0xF0 then
              (looseUtf8? t).map
                (Char.ofNat (a.toNat % 16 * 4096 + b.toNat % 64 * 64 + c.toNat % 64) :: ·)
            else
              match t with
              | [] => none
              | d :: u =>
                if 0xF7 < a.toNat || d.toNat < 0x80 then none
                else
                  (looseUtf8? u).map
                    (Char.ofNat (a.toNat % 8 * 262144 + b.toNat % 64 * 4096 + c.toNat % 64 * 64
                      + d.toNat % 64) :: ·)

/-- The characters of a content, if all belong to the type. -/
def restricted? (allowed : Char → Bool) (content : Bytes) : Option (List Char) :=
  let s := Time.chars content
  if s.all allowed then some s else none

/-- The text of a value of one of the readable string types. -/
def text? (v : Tlv) : Option (List Char) :=
  if v.ident = Tag.utf8String then looseUtf8? v.content
  else if v.ident = Tag.printableString then restricted? isPrintableType v.content
  else if v.ident = Tag.ia5String then restricted? (·.toNat < 128) v.content
  else if v.ident = Tag.numericString then
    restricted? (fun c => c.isDigit || c == ' ') v.content
  else none

/-! ## Parts of a certificate -/

/-- An object identifier: octets, the last of which ends its component. -/
def isOid (t : Tlv) : Bool :=
  t.ident == Tag.oid && t.content.getLast?.any (·.toNat < 128)

/-- The object identifier of the common name attribute. -/
def commonNameOid : Bytes := [0x55, 0x04, 0x03]

/-- One attribute: its identifier and the octets of its values. -/
def attribute? (t : Tlv) : Option (Bytes × Bytes) :=
  (t.expect? Tag.sequence).bind fun content =>
    match next? .display content with
    | some (oid, values) =>
      if isOid oid && isNested .display values then some (oid.content, values) else none
    | none => none

/-- The attributes of one set. -/
def attributeSet? (t : Tlv) : Option (List (Bytes × Bytes)) :=
  ((t.expect? Tag.set).bind (all? .display)).bind (·.mapM attribute?)

/-- The attributes of a name, in order. -/
def attributes? (t : Tlv) : Option (List (Bytes × Bytes)) :=
  (((t.expect? Tag.sequence).bind (all? .display)).bind (·.mapM attributeSet?)).map (·.flatten)

/-- The first common name, empty where there is none or where it is unreadable. -/
def commonName (attrs : List (Bytes × Bytes)) : String :=
  match attrs.find? (·.1 == commonNameOid) with
  | some (_, values) =>
    match next? .display values with
    | some (v, _) => String.ofList ((text? v).getD [])
    | none => ""
  | none => ""

/-- An algorithm: an object identifier and parameters of any kind. -/
def isAlgorithm (t : Tlv) : Bool :=
  (attribute? t).isSome

/-- A bit string: the count of unused bits, then octets whose unused bits are zero. -/
def isBitString (t : Tlv) : Bool :=
  t.ident == Tag.bitString &&
    match t.content with
    | [] => false
    | u :: bits =>
      match bits.getLast? with
      | none => u == 0
      | some b => u.toNat ≤ 7 && b.toNat % Nat.pow 2 u.toNat == 0

/-- A whole number in the fewest octets. -/
def isInteger (t : Tlv) : Bool :=
  t.ident == Tag.integer &&
    match t.content with
    | [] => false
    | [_] => true
    | a :: b :: _ =>
      !((a == 0 && b.toNat < 128) || (a == 0xFF && 128 ≤ b.toNat))

/-- A public key: an algorithm and a bit string. -/
def isPublicKey (t : Tlv) : Bool :=
  match (t.expect? Tag.sequence).bind (all? .display) with
  | some [alg, key] => isAlgorithm alg && isBitString key
  | _ => false

/-- A time of either form. -/
def time? (t : Tlv) : Option CalendarTime :=
  (Time.Form.ofTag? t.ident).bind fun form => Time.loose? form t.content

/-- The two ends of a validity. -/
def validity? (t : Tlv) : Option (CalendarTime × CalendarTime) :=
  match (t.expect? Tag.sequence).bind (all? .display) with
  | some [a, b] =>
    match time? a, time? b with
    | some a, some b => some (a, b)
    | _, _ => none
  | _ => none

/-- A version field: one octet, 0 to 2. -/
def isVersion (t : Tlv) : Bool :=
  match all? .display t.content with
  | some [v] => v.ident == Tag.integer && [[0], [1], [2]].contains v.content
  | _ => false

/-- A field that wraps a bit string. -/
def wrapsBitString (t : Tlv) : Bool :=
  match all? .display t.content with
  | some [v] => isBitString v
  | _ => false

/-- An extension: identifier, an optional flag, and a content. -/
def isExtension (t : Tlv) : Bool :=
  match (t.expect? Tag.sequence).bind (all? .display) with
  | some (oid :: rest) =>
    let (flag, rest) := takeOptional Tag.boolean rest
    isOid oid && flag.all (fun f => f.content == [0] || f.content == [0xFF])
      && (match rest with
          | [v] => v.ident == Tag.octetString
          | _ => false)
  | _ => false

/-- The field that holds the extensions. -/
def wrapsExtensions (t : Tlv) : Bool :=
  match all? .display t.content with
  | some [v] =>
    match (v.expect? Tag.sequence).bind (all? .display) with
    | some es => es.all isExtension
    | none => false
  | _ => false

/-- The fields after the public key: two optional identifiers and the extensions. -/
def isTail (ts : List Tlv) : Bool :=
  let (issuerId, ts) := takeOptional (Tag.explicit 1) ts
  let (subjectId, ts) := takeOptional (Tag.explicit 2) ts
  let (extensions, ts) := takeOptional (Tag.explicit 3) ts
  issuerId.all wrapsBitString && subjectId.all wrapsBitString && extensions.all wrapsExtensions
    && ts.isEmpty

/-- The description of the signed part of a certificate. -/
def ofSigned? (t : Tlv) : Option Description :=
  match (t.expect? Tag.sequence).bind (all? .display) with
  | none => none
  | some ts =>
    let (version, ts) := takeOptional (Tag.explicit 0) ts
    match ts with
    | serial :: alg :: issuer :: validity :: subject :: key :: tail =>
      if version.all isVersion && isInteger serial && isAlgorithm alg && isPublicKey key
          && isTail tail then
        match attributes? issuer, validity? validity, attributes? subject with
        | some issuer, some (notBefore, notAfter), some subject =>
          some
            { subject := commonName subject
              issuer := commonName issuer
              serial := bigEndian serial.content
              notBefore := notBefore.toUnix
              notAfter := notAfter.toUnix }
        | _, _, _ => none
      else none
    | _ => none

/-- The description of a certificate, `none` where it is damaged. -/
def ofDer? (der : Bytes) : Option Description :=
  match next? .display der with
  | none => none
  | some (t, _) =>
    match (t.expect? Tag.sequence).bind (all? .display) with
    | some [signed, alg, sig] =>
      if isAlgorithm alg && isBitString sig then ofSigned? signed else none
    | _ => none

/-! ## The line for logs -/

/-- The text of a point in time. -/
def writeTime (seconds : Int) : List Char :=
  (CalendarTime.ofUnix seconds).write

/-- One line with all five fields; the names are quoted. -/
def line (d : Description) : List Char :=
  "subject=".toList ++ Quoted.encode d.subject.toList
    ++ " issuer=".toList ++ Quoted.encode d.issuer.toList
    ++ " serial=".toList ++ Decimal.write d.serial
    ++ " valid=[".toList ++ writeTime d.notBefore ++ " ~ ".toList ++ writeTime d.notAfter ++ [']']

/-- The line as a string. -/
def write (d : Description) : String :=
  String.ofList d.line

end Description
end CertRotation.X509
