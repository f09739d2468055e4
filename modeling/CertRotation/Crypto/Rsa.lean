/-
RSA signatures, with the older padding and with the probabilistic one.
-/
import CertRotation.Crypto.Sha2
import CertRotation.Asn1.Der

namespace CertRotation.Crypto.Rsa

/-- The two paddings. -/
inductive Padding where
  | pkcs1
  | pss
deriving DecidableEq, Repr

/-- Modulus and exponent. -/
structure PublicKey where
  n : Nat
  e : Nat
deriving DecidableEq, Repr

/-- Octets of the modulus. -/
def PublicKey.size (k : PublicKey) : Nat :=
  (bitLength k.n + 7) / 8

/-- The public key of its encoding: a sequence of modulus and exponent. -/
def PublicKey.ofDer? (der : Bytes) : Option PublicKey :=
  match (Asn1.whole? .key Asn1.Tag.sequence der).bind (Asn1.all? .key) with
  | some [n, e] =>
    match n.positive?, e.positive? with
    | some n, some e => some ⟨n, e⟩
    | _, _ => none
  | _ => none

/-- The identification of a digest in front of it, in the older padding. -/
def digestInfo : Digest → Bytes
  | .sha256 => [0x30, 0x31, 0x30, 0x0d, 0x06, 0x09, 0x60, 0x86, 0x48, 0x01, 0x65, 0x03, 0x04,
      0x02, 0x01, 0x05, 0x00, 0x04, 0x20]
  | .sha384 => [0x30, 0x41, 0x30, 0x0d, 0x06, 0x09, 0x60, 0x86, 0x48, 0x01, 0x65, 0x03, 0x04,
      0x02, 0x02, 0x05, 0x00, 0x04, 0x30]
  | .sha512 => [0x30, 0x51, 0x30, 0x0d, 0x06, 0x09, 0x60, 0x86, 0x48, 0x01, 0x65, 0x03, 0x04,
      0x02, 0x03, 0x05, 0x00, 0x04, 0x40]

/-- A digest in the older padding, `size` octets in all. -/
def pkcs1Block (d : Digest) (size : Nat) (digest : Bytes) : Bytes :=
  let t := digestInfo d ++ digest
  [0x00, 0x01] ++ List.replicate (size - t.length - 3) 0xFF ++ [0x00] ++ t

/-- A mask of `count` digests made from a seed. -/
def mask (d : Digest) (seed : Bytes) : Nat → Bytes
  | 0 => []
  | count + 1 => mask d seed count ++ d.hash (seed ++ toBytes 4 count)

/-- Whether a block of `bits` bits is a probabilistic padding of a digest. -/
def isPssBlock (d : Digest) (bits : Nat) (block digest : Bytes) : Bool :=
  let h := d.size
  let dbLength := block.length - h - 1
  let masked := block.take dbLength
  let hash := (block.drop dbLength).take h
  let unmasked := List.zipWith (· ^^^ ·) masked (mask d hash (dbLength / h + 1))
  let topBits := 8 * block.length - bits
  let dbBits := 8 * dbLength - topBits
  let db := toBytes dbLength (ofBytes unmasked % Nat.pow 2 dbBits)
  let zeros := dbLength - h - 1
  let salt := db.drop (zeros + 1)
  2 * h + 2 ≤ block.length && block.getLast? == some 0xBC
    && bitLength (ofBytes masked) ≤ dbBits
    && db.take zeros == List.replicate zeros 0 && db[zeros]? == some 0x01
    && hash == d.hash (List.replicate 8 0 ++ digest ++ salt)

/-- Whether a key is admitted: 2048 to 8192 bits and an odd exponent of at most 33 bits. -/
def PublicKey.isAdmitted (k : PublicKey) : Bool :=
  2048 ≤ 8 * k.size && bitLength k.n ≤ 8192 && k.n % 2 == 1 && k.e % 2 == 1 && 3 ≤ k.e
    && bitLength k.e ≤ 33

/-- Whether a signature of a message verifies under a key. -/
def verifies (padding : Padding) (d : Digest) (k : PublicKey) (message signature : Bytes) : Bool :=
  let s := ofBytes signature
  if !k.isAdmitted || signature.length != k.size || k.n ≤ s then false
  else
    let m := powMod s k.e k.n
    match padding with
    | .pkcs1 => toBytes k.size m == pkcs1Block d k.size (d.hash message)
    | .pss =>
      let bits := bitLength k.n - 1
      isPssBlock d bits (toBytes ((bits + 7) / 8) m) (d.hash message) && bitLength m ≤ bits

end CertRotation.Crypto.Rsa
