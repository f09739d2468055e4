/-
Signatures over certificates: the algorithms that are admitted and their
verification.

An algorithm is named twice, in the certificate that it signs and, for its key,
in the certificate of the issuer.  Both names are compared as they are encoded.
-/
import CertRotation.Key
import CertRotation.X509.Certificate

namespace CertRotation.X509

open Asn1 Crypto

/-- An algorithm: its name on signatures, the name of its keys, and the check. -/
structure SignatureAlgorithm where
  id : Bytes
  keyId : Bytes
  verifies : (key message signature : Bytes) → Bool

namespace SignatureAlgorithm

/-- The two numbers of an ECDSA signature. -/
def ecdsaNumbers? (signature : Bytes) : Option (Nat × Nat) :=
  match (whole? .key Tag.sequence signature).bind (all? .key) with
  | some [r, s] =>
    match r.positive?, s.positive? with
    | some r, some s => some (r, s)
    | _, _ => none
  | _ => none

/-- The last octet of the name of ECDSA with a digest. -/
def ecdsaId (d : Digest) : Bytes :=
  [0x06, 0x08, 0x2A, 0x86, 0x48, 0xCE, 0x3D, 0x04, 0x03,
    match d with
    | .sha256 => 0x02
    | .sha384 => 0x03
    | .sha512 => 0x04]

def ecdsa (c : Curve) (d : Digest) : SignatureAlgorithm where
  id := ecdsaId d
  keyId := PublicKey.ecAlgorithm c
  verifies key message signature :=
    match ecdsaNumbers? signature with
    | some (r, s) => c.params.verifies key (d.hash message) r s
    | none => false

def ed25519 : SignatureAlgorithm where
  id := PublicKey.edAlgorithm
  keyId := PublicKey.edAlgorithm
  verifies := Ed25519.verifies

/-- The name of RSA with the older padding and a digest. -/
def pkcs1Id (d : Digest) : Bytes :=
  [0x06, 0x09, 0x2A, 0x86, 0x48, 0x86, 0xF7, 0x0D, 0x01, 0x01,
    match d with
    | .sha256 => 0x0B
    | .sha384 => 0x0C
    | .sha512 => 0x0D, 0x05, 0x00]

/-- The name of a digest, with its empty parameters. -/
def digestId (d : Digest) : Bytes :=
  [0x30, 0x0D, 0x06, 0x09, 0x60, 0x86, 0x48, 0x01, 0x65, 0x03, 0x04, 0x02,
    match d with
    | .sha256 => 0x01
    | .sha384 => 0x02
    | .sha512 => 0x03, 0x05, 0x00]

/-- The name of RSA with the probabilistic padding: digest, mask and salt length. -/
def pssId (d : Digest) : Bytes :=
  [0x06, 0x09, 0x2A, 0x86, 0x48, 0x86, 0xF7, 0x0D, 0x01, 0x01, 0x0A, 0x30, 0x34, 0xA0, 0x0F]
    ++ digestId d
    ++ [0xA1, 0x1C, 0x30, 0x1A, 0x06, 0x09, 0x2A, 0x86, 0x48, 0x86, 0xF7, 0x0D, 0x01, 0x01, 0x08]
    ++ digestId d ++ [0xA2, 0x03, 0x02, 0x01, UInt8.ofNat d.size]

def rsa (padding : Rsa.Padding) (d : Digest) : SignatureAlgorithm where
  id :=
    match padding with
    | .pkcs1 => pkcs1Id d
    | .pss => pssId d
  keyId := PublicKey.rsaAlgorithm
  verifies key message signature :=
    match Rsa.PublicKey.ofDer? key with
    | some k => Rsa.verifies padding d k message signature
    | none => false

/-- Every algorithm that is admitted. -/
def all : List SignatureAlgorithm :=
  [ecdsa .p256 .sha256, ecdsa .p256 .sha384, ecdsa .p384 .sha256, ecdsa .p384 .sha384, ed25519,
    rsa .pss .sha256, rsa .pss .sha384, rsa .pss .sha512,
    rsa .pkcs1 .sha256, rsa .pkcs1 .sha384, rsa .pkcs1 .sha512]

end SignatureAlgorithm

/-- Algorithm and key of a public key field. -/
def readPublicKey (field : Bytes) : Except Fault PublicKey :=
  readAll .badDer field fun s => do
    let (algorithm, s) ← expect Tag.sequence s
    let (key, s) ← bitString s
    return (⟨algorithm, key⟩, s)

/-- Tries the algorithms of a name in turn; the first for the issuer's kind of key decides. -/
def verifyWith (publicKey : Bytes) (signed : SignedData) :
    List SignatureAlgorithm → Bool → Except Fault Unit
  | [], seen =>
    .error (if seen then .unsupportedSignatureAlgorithmForPublicKey
      else .unsupportedSignatureAlgorithm)
  | a :: rest, seen =>
    if a.id ≠ signed.algorithm then verifyWith publicKey signed rest seen
    else
      match readPublicKey publicKey with
      | .error f => .error f
      | .ok k =>
        if k.algorithm ≠ a.keyId then verifyWith publicKey signed rest true
        else if a.verifies k.key signed.data signed.signature then .ok ()
        else .error .invalidSignature

/-- Checks signed octets under the public key field of the issuer. -/
def SignedData.verify (signed : SignedData) (publicKey : Bytes) : Except Fault Unit :=
  verifyWith publicKey signed SignatureAlgorithm.all false

end CertRotation.X509
