/-
Private keys, the containers they come in, and the public keys they belong to.

A key comes as PKCS#8 (any type), as PKCS#1 (RSA) or as SEC 1 (elliptic
curves).  Whatever the container, reading it yields the key itself, and the key
determines its public key; a container that states a different public key is
refused.
-/
import CertRotation.Crypto.Weierstrass
import CertRotation.Crypto.Edwards
import CertRotation.Crypto.Rsa
import CertRotation.Pem

namespace CertRotation

open Asn1 Crypto

/-- The curves whose keys are supported. -/
inductive Curve where
  | p256
  | p384
deriving DecidableEq, Repr

namespace Curve

def params : Curve → WeierstrassCurve
  | .p256 => .p256
  | .p384 => .p384

/-- The object identifier of a curve, as an encoded value. -/
def oid : Curve → Bytes
  | .p256 => [0x06, 0x08, 0x2A, 0x86, 0x48, 0xCE, 0x3D, 0x03, 0x01, 0x07]
  | .p384 => [0x06, 0x05, 0x2B, 0x81, 0x04, 0x00, 0x22]

end Curve

/-- The kinds of signatures that a key makes. -/
inductive KeyAlgorithm where
  | rsa
  | ecdsa
  | ed25519
deriving DecidableEq, Repr

/-- The name of a kind. -/
def KeyAlgorithm.name : KeyAlgorithm → String
  | .rsa => "RSA"
  | .ecdsa => "ECDSA"
  | .ed25519 => "ED25519"

/-- A public key as certificates hold it: the algorithm and the key's octets. -/
structure PublicKey where
  algorithm : Bytes
  key : Bytes
deriving DecidableEq, Repr

namespace PublicKey

/-- The algorithm of RSA keys. -/
def rsaAlgorithm : Bytes :=
  [0x06, 0x09, 0x2A, 0x86, 0x48, 0x86, 0xF7, 0x0D, 0x01, 0x01, 0x01, 0x05, 0x00]

/-- The algorithm of keys on a curve. -/
def ecAlgorithm (c : Curve) : Bytes :=
  [0x06, 0x07, 0x2A, 0x86, 0x48, 0xCE, 0x3D, 0x02, 0x01] ++ c.oid

/-- The algorithm of Ed25519 keys. -/
def edAlgorithm : Bytes := [0x06, 0x03, 0x2B, 0x65, 0x70]

end PublicKey

/-- The numbers of an RSA key. -/
structure RsaPrivate where
  n : Nat
  e : Nat
  d : Nat
  p : Nat
  q : Nat
  dP : Nat
  dQ : Nat
  qInv : Nat
deriving DecidableEq, Repr

/-- A private key of one of the supported kinds. -/
inductive PrivateKey where
  | rsa (numbers : RsaPrivate)
  | ec (curve : Curve) (d : Nat)
  | ed25519 (seed : Bytes)
deriving DecidableEq, Repr

namespace RsaPrivate

/-- Whether the numbers fit together as far as reading a key checks: sizes, parities, the
product of the primes and the coefficient. -/
def isConsistent (k : RsaPrivate) : Bool :=
  let bits := bitLength k.n
  let half := (bits + 1) / 2
  2048 ≤ (bits + 7) / 8 * 8 && bits ≤ 4096 && k.n % 2 == 1
    && k.e % 2 == 1 && 65537 ≤ k.e && bitLength k.e ≤ 33
    && bitLength k.p == half && bitLength k.q == half && half % 512 == 0
    && k.p % 2 == 1 && k.q % 2 == 1 && k.p * k.q == k.n
    && k.d % 2 == 1 && Nat.pow 2 half < k.d && k.d < k.n
    && k.dP % 2 == 1 && k.dP < k.p && k.dQ % 2 == 1 && k.dQ < k.q
    && k.qInv < k.p && k.qInv * k.q % k.p == 1

/-- Whether the public exponent undoes both of the private ones.  Of primes this means that whatever
the key signs verifies; reading a key makes sure of neither. -/
def signs (k : RsaPrivate) : Bool :=
  k.dP * k.e % (k.p - 1) == 1 && k.dQ * k.e % (k.q - 1) == 1

end RsaPrivate

namespace PrivateKey

def algorithm : PrivateKey → KeyAlgorithm
  | .rsa _ => .rsa
  | .ec _ _ => .ecdsa
  | .ed25519 _ => .ed25519

/-- Encodes a length in the fewest octets. -/
def encodeLength (n : Nat) : Bytes :=
  if n < 128 then [UInt8.ofNat n]
  else
    let size := (bitLength n + 7) / 8
    UInt8.ofNat (128 + size) :: toBytes size n

/-- Encodes one value. -/
def encodeValue (ident : Bytes) (content : Bytes) : Bytes :=
  ident ++ encodeLength content.length ++ content

/-- Encodes a number that is not negative. -/
def encodeNumber (n : Nat) : Bytes :=
  encodeValue Tag.integer (toBytes (bitLength n / 8 + 1) n)

/-- The public key that belongs to a private key. -/
def publicKey : PrivateKey → PublicKey
  | .rsa k => ⟨PublicKey.rsaAlgorithm, encodeValue Tag.sequence (encodeNumber k.n ++ encodeNumber k.e)⟩
  | .ec c d => ⟨PublicKey.ecAlgorithm c, c.params.publicKey d⟩
  | .ed25519 seed => ⟨PublicKey.edAlgorithm, Ed25519.publicKey seed⟩

/-- Whether signatures made with the key verify under its own public key. -/
def signs : PrivateKey → Bool
  | .rsa k => k.signs
  | _ => true

/-! ## Containers -/

/-- A number of one octet that is not negative. -/
def small? (t : Tlv) : Option Nat :=
  match t.expect? Tag.integer with
  | some [b] => if b.toNat < 128 then some b.toNat else none
  | some [0, b] => if 128 ≤ b.toNat then some b.toNat else none
  | _ => none

/-- A number that is not negative, in the fewest octets. -/
def number? (t : Tlv) : Option Nat :=
  match t.expect? Tag.integer with
  | some [0] => some 0
  | _ => t.positive?

/-- A bit string without unused bits. -/
def bits? (t : Tlv) : Option Bytes :=
  match t.expect? Tag.bitString with
  | some (0 :: key) => some key
  | _ => none

/-- What a PKCS#8 container holds: version, algorithm, private key, and the fields after it. -/
structure Wrapped where
  version : Nat
  algorithm : Bytes
  content : Bytes
  rest : List Tlv

/-- The fields of a PKCS#8 container. -/
def wrapped? (der : Bytes) : Option Wrapped :=
  match (whole? .key Tag.sequence der).bind (all? .key) with
  | some (v :: alg :: key :: rest) =>
    match small? v, alg.expect? Tag.sequence, key.expect? Tag.octetString with
    | some v, some alg, some key => some ⟨v, alg, key, (takeOptional (Tag.explicit 0) rest).2⟩
    | _, _, _ => none
  | _ => none

/-- The content of a container of the first version for an algorithm. -/
def unwrapFirst? (algorithm : Bytes) (w : Wrapped) : Option Bytes :=
  if w.version = 0 ∧ w.algorithm = algorithm ∧ w.rest.isEmpty then some w.content else none

/-- The RSA key of a PKCS#1 container. -/
def ofPkcs1? (der : Bytes) : Option PrivateKey :=
  match (whole? .key Tag.sequence der).bind (all? .key) with
  | some (v :: ts) =>
    match small? v, ts.mapM number? with
    | some 0, some [n, e, d, p, q, dP, dQ, qInv] =>
      let k : RsaPrivate := ⟨n, e, d, p, q, dP, dQ, qInv⟩
      if k.isConsistent then some (.rsa k) else none
    | _, _ => none
  | _ => none

/-- The key of a SEC 1 container on a given curve.  The container must state the public key. -/
def ofSec1? (c : Curve) (der : Bytes) : Option PrivateKey :=
  match (whole? .key Tag.sequence der).bind (all? .key) with
  | some (v :: secret :: rest) =>
    let (curve, rest) := takeOptional (Tag.explicit 0) rest
    match small? v, secret.expect? Tag.octetString, rest with
    | some 1, some secret, [wrapped] =>
      let d := ofBytes secret
      let stated := ((wrapped.expect? (Tag.explicit 1)).bind fun s =>
        match all? .key s with
        | some [t] => bits? t
        | _ => none)
      if curve.all (·.content == c.oid) && secret.length == c.params.size && 0 < d
          && d < c.params.n && stated == some (c.params.publicKey d) then
        some (.ec c d)
      else none
    | _, _, _ => none
  | _ => none

/-- The key of a SEC 1 container on whichever supported curve it fits. -/
def ofAnySec1? (der : Bytes) : Option PrivateKey :=
  (ofSec1? .p256 der).or (ofSec1? .p384 der)

/-- The public key that a container of the second version states. -/
def statedKey? : List Tlv → Option Bytes
  | [t] =>
    if t.ident = Tag.implicit 1 then bits? { t with ident := Tag.bitString }
    else if t.ident = Tag.explicit 1 then
      match all? .key t.content with
      | some [t] => bits? t
      | _ => none
    else none
  | _ => none

/-- The Ed25519 key of a PKCS#8 container; the second version states the public key. -/
def edOfWrapped? (w : Wrapped) : Option PrivateKey :=
  if w.algorithm ≠ PublicKey.edAlgorithm then none
  else
    match whole? .key Tag.octetString w.content with
    | none => none
    | some seed =>
      if seed.length ≠ 32 then none
      else
        match w.version, w.rest with
        | 0, [] => some (.ed25519 seed)
        | 1, rest => if statedKey? rest = some (Ed25519.publicKey seed) then some (.ed25519 seed) else none
        | _, _ => none

/-- The key of a PKCS#8 container. -/
def ofPkcs8? (der : Bytes) : Option PrivateKey :=
  match wrapped? der with
  | none => none
  | some w =>
    ((unwrapFirst? PublicKey.rsaAlgorithm w).bind ofPkcs1?).or
      (((unwrapFirst? (PublicKey.ecAlgorithm .p256) w).bind (ofSec1? .p256)).or
        (((unwrapFirst? (PublicKey.ecAlgorithm .p384) w).bind (ofSec1? .p384)).or
          (edOfWrapped? w)))

/-- The private key of a container, `none` where it is damaged or unsupported. -/
def ofDer? (container : Pem.Container) (der : Bytes) : Option PrivateKey :=
  match container with
  | .pkcs8 => ofPkcs8? der
  | .pkcs1 => ofPkcs1? der
  | .sec1 => ofAnySec1? der

end PrivateKey
end CertRotation
