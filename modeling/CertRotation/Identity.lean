/-
An identity: a chain of certificates and the private key of its first one.

`Identity.ofPem` reads one from two PEM texts in fixed stages, and the first
stage that fails names the error.  No identity exists before its key has been
checked, so a certificate and a key that do not belong together are
never held as one.
-/
import CertRotation.Probe
import CertRotation.Files
import CertRotation.X509.Description

namespace CertRotation

/-- The key is the private key of the leaf's public key. -/
def Certifies (leaf : Bytes) (key : PrivateKey) : Prop :=
  ∃ c, X509.Certificate.ofDer leaf = .ok c ∧ c.publicKey? = some key.publicKey

/-- A chain, leaf first, and the private key of the leaf. -/
structure Identity where
  leaf : Bytes
  issuers : List Bytes
  key : PrivateKey
  certifies : Certifies leaf key

namespace Identity

/-- The whole chain, leaf first. -/
def chain (i : Identity) : List Bytes :=
  i.leaf :: i.issuers

/-- Both present the same certificates. -/
def sharesChain (i j : Identity) : Bool :=
  i.chain == j.chain

/-- What is shown of the leaf, if it can be read for display. -/
def description? (i : Identity) : Option X509.Description :=
  X509.Description.ofDer? i.leaf

/-- A text for diagnostics that shows no key material. -/
def debugText (i : Identity) : String :=
  "Identity \x7b chain_len: " ++ String.ofList (Text.Decimal.write i.chain.length) ++ ", key: "
    ++ i.key.algorithm.name ++ " \x7d"

/-- The text of a key that no reader accepts. -/
def unreadableKey : Tls.Failure :=
  .general "failed to parse private key as RSA, ECDSA, or EdDSA"

/-- Checks a key against a leaf: the leaf parses, and the key passes the probe. -/
def check (leaf : Bytes) (key : PrivateKey) : Except LoadError (PLift (Certifies leaf key)) :=
  match h : X509.Certificate.ofDer leaf with
  | .error f => .error (.invalidCertificate f)
  | .ok c =>
    match hp : Probe.run c key with
    | .error e => .error e
    | .ok () => .ok ⟨c, h, Probe.publicKey?_of_run hp⟩

/-- The identity of decoded certificates and a key in its container. -/
def ofDer (chain : List Bytes) (container : Pem.Container) (key : Bytes) :
    Except LoadError Identity :=
  match chain with
  | [] => .error (.missingCertificate "")
  | leaf :: issuers =>
    match PrivateKey.ofDer? container key with
    | none => .error (.unsupportedKey unreadableKey)
    | some k =>
      match check leaf k with
      | .error e => .error e
      | .ok ⟨h⟩ => .ok ⟨leaf, issuers, k, h⟩

/-- All certificates of a bundle, unless any of its blocks is damaged. -/
def chainOf (path : String) (text : Bytes) : Except LoadError (List Bytes) :=
  match (Pem.certificates text).mapM id with
  | .ok chain => .ok chain
  | .error f => .error (.malformedPem path f.message)

/-- The first private key of a bundle. -/
def keyOf (path : String) (text : Bytes) : Except LoadError (Pem.Container × Bytes) :=
  match Pem.firstKey (Pem.items text) with
  | .ok (some k) => .ok k
  | .ok none => .error (.missingPrivateKey path)
  | .error f => .error (.malformedPem path f.message)

/-- The identity of two PEM texts; the paths only name the source of an error. -/
def ofPem (cert : Bytes) (certPath : String) (key : Bytes) (keyPath : String) :
    Except LoadError Identity :=
  match chainOf certPath cert with
  | .error e => .error e
  | .ok [] => .error (.missingCertificate certPath)
  | .ok chain =>
    match keyOf keyPath key with
    | .error e => .error e
    | .ok (container, der) => ofDer chain container der

/-- The octets of a file of an identity. -/
def fileOf (files : FileTree) (path : String) : Except LoadError Bytes :=
  match files.read path with
  | .ok data => .ok data
  | .error e => .error (.read path e)

/-- The identity of two files, certificate first. -/
def load (files : FileTree) (certPath keyPath : String) : Except LoadError Identity :=
  match fileOf files certPath with
  | .error e => .error e
  | .ok cert =>
    match fileOf files keyPath with
    | .error e => .error e
    | .ok key => ofPem cert certPath key keyPath

end Identity
end CertRotation
