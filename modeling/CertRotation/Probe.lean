/-
The check that a private key belongs to a certificate.

A fixed message is signed with the key, and the signature is tried under the
public key of the leaf.  Which scheme the key is asked for, and which algorithms
are tried, is spelled out.  The signature itself is a record of who made it, how
and over what, so that it verifies under a public key exactly if it was made by
the private key of that pair.
-/
import CertRotation.Key
import CertRotation.X509.Certificate
import CertRotation.Error

namespace CertRotation

open Crypto

namespace X509.Certificate

/-- The public key of a certificate: algorithm and key of its key field. -/
def publicKey? (c : Certificate) : Option PublicKey :=
  match expect Asn1.Tag.sequence c.publicKey with
  | .error _ => none
  | .ok (algorithm, r) =>
    match bitString r with
    | .ok (key, []) => some ⟨algorithm, key⟩
    | _ => none

end X509.Certificate

namespace Probe

/-- How a signature is made, whatever the curve. -/
inductive Kind where
  | ecdsa (digest : Digest)
  | ed25519
  | rsa (padding : Rsa.Padding) (digest : Digest)
deriving DecidableEq, Repr

/-- What a key can be asked for: a kind, and with ECDSA a curve. -/
inductive Scheme where
  | ecdsa (curve : Curve) (digest : Digest)
  | ed25519
  | rsa (padding : Rsa.Padding) (digest : Digest)
deriving DecidableEq, Repr

def Scheme.kind : Scheme → Kind
  | .ecdsa _ d => .ecdsa d
  | .ed25519 => .ed25519
  | .rsa p d => .rsa p d

/-- The schemes that the check asks for. -/
def offered : List Scheme :=
  [.ecdsa .p256 .sha256, .ecdsa .p384 .sha384, .ed25519, .rsa .pss .sha256, .rsa .pkcs1 .sha256]

/-- The schemes that a key can sign with, the one it likes best first. -/
def schemes : PrivateKey → List Scheme
  | .rsa _ =>
    [.rsa .pss .sha512, .rsa .pss .sha384, .rsa .pss .sha256,
      .rsa .pkcs1 .sha512, .rsa .pkcs1 .sha384, .rsa .pkcs1 .sha256]
  | .ec .p256 _ => [.ecdsa .p256 .sha256]
  | .ec .p384 _ => [.ecdsa .p384 .sha384]
  | .ed25519 _ => [.ed25519]

/-- The scheme that a key chooses among some. -/
def chooseScheme? (key : PrivateKey) (among : List Scheme) : Option Scheme :=
  (schemes key).find? among.contains

/-- A signature: the key pair that made it, how, and over what. -/
structure Signature where
  signer : PublicKey
  kind : Kind
  message : Bytes
deriving DecidableEq, Repr

/-- Signs a message.  A key whose signatures would not verify under its own public key refuses. -/
def sign (key : PrivateKey) (scheme : Scheme) (message : Bytes) : Except Tls.Failure Signature :=
  if key.signs then .ok ⟨key.publicKey, scheme.kind, message⟩
  else .error (.general "signing failed")

/-- An algorithm that verifies signatures of one kind under keys of one name. -/
structure Algorithm where
  keyId : Bytes
  kind : Kind
deriving DecidableEq, Repr

/-- Whether a signature over a message verifies under a public key. -/
def Algorithm.verifies (a : Algorithm) (key : PublicKey) (message : Bytes) (s : Signature) : Bool :=
  key.algorithm == a.keyId && s == ⟨key, a.kind, message⟩

/-- The algorithms that may have made a signature of a scheme.  The scheme's curve is not binding. -/
def algorithms : List (Scheme × List Algorithm) :=
  let ec (c : Curve) (d : Digest) : Algorithm := ⟨PublicKey.ecAlgorithm c, .ecdsa d⟩
  let rsa (p : Rsa.Padding) (d : Digest) : Scheme × List Algorithm :=
    (.rsa p d, [⟨PublicKey.rsaAlgorithm, .rsa p d⟩])
  [(.ecdsa .p384 .sha384, [ec .p384 .sha384, ec .p256 .sha384]),
    (.ecdsa .p256 .sha256, [ec .p256 .sha256, ec .p384 .sha256]),
    (.ed25519, [⟨PublicKey.edAlgorithm, .ed25519⟩]),
    rsa .pss .sha512, rsa .pss .sha384, rsa .pss .sha256,
    rsa .pkcs1 .sha512, rsa .pkcs1 .sha384, rsa .pkcs1 .sha256]

/-- The message that is signed. -/
def message : Bytes :=
  Pem.ascii "hello-mtls key pair consistency check"

/-- Signs the message with a key and tries the signature under the public key of a certificate. -/
def run (leaf : X509.Certificate) (key : PrivateKey) : Except LoadError Unit :=
  match chooseScheme? key offered with
  | none => .error .keyMismatch
  | some scheme =>
    match sign key scheme message with
    | .error f => .error (.unsupportedKey f)
    | .ok signature =>
      let tried := (algorithms.lookup scheme).getD []
      if tried.any fun a => leaf.publicKey?.any (a.verifies · message signature) then .ok ()
      else .error .keyMismatch

/-! ## What the check decides -/

/-- A signature of a key verifies exactly under its own public key, by an algorithm of its kind. -/
theorem Algorithm.verifies_iff {a : Algorithm} {leaf signer : PublicKey} {kind : Kind} {m : Bytes} :
    a.verifies leaf m ⟨signer, kind, m⟩ = true ↔
      leaf.algorithm = a.keyId ∧ signer = leaf ∧ kind = a.kind := by
  simp [Algorithm.verifies]

/-- Every key finds a scheme among those that the check asks for, and one of the algorithms tried on
it is for keys of its own name. -/
theorem chooseScheme?_offered (key : PrivateKey) :
    ∃ scheme, chooseScheme? key offered = some scheme ∧
      ⟨key.publicKey.algorithm, scheme.kind⟩ ∈ (algorithms.lookup scheme).getD [] := by
  cases key with
  | rsa k => exact ⟨.rsa .pss .sha256, rfl, .head _⟩
  | ec c d =>
      cases c with
      | p256 => exact ⟨.ecdsa .p256 .sha256, rfl, .head _⟩
      | p384 => exact ⟨.ecdsa .p384 .sha384, rfl, .head _⟩
  | ed25519 seed => exact ⟨.ed25519, rfl, .head _⟩

/-- The check in one line: the key must sign, and its public key must be the leaf's. -/
theorem run_eq (leaf : X509.Certificate) (key : PrivateKey) :
    run leaf key =
      if key.signs then
        if leaf.publicKey? = some key.publicKey then .ok () else .error .keyMismatch
      else .error (.unsupportedKey (.general "signing failed")) := by
  obtain ⟨scheme, hchosen, hown⟩ := chooseScheme?_offered key
  unfold run sign
  rw [hchosen]
  by_cases hs : key.signs = true
  · have hany : ((algorithms.lookup scheme).getD []).any
        (fun a => leaf.publicKey?.any (a.verifies · message ⟨key.publicKey, scheme.kind, message⟩))
          = true ↔ leaf.publicKey? = some key.publicKey := by
      simp only [List.any_eq_true, Option.any_eq_true, Algorithm.verifies_iff]
      constructor
      · rintro ⟨a, -, k, hk, -, hsigner, -⟩
        rw [hk, hsigner]
      · intro hk
        exact ⟨_, hown, key.publicKey, hk, rfl, rfl, rfl⟩
    simp only [hs, if_true, hany]
  · simp only [hs, if_false, Bool.false_eq_true]

/-- A key that passes the check is the leaf's. -/
theorem publicKey?_of_run {leaf : X509.Certificate} {key : PrivateKey} (h : run leaf key = .ok ()) :
    leaf.publicKey? = some key.publicKey := by
  rw [run_eq] at h
  split at h
  · split at h
    · assumption
    · nomatch h
  · nomatch h

end Probe
end CertRotation
