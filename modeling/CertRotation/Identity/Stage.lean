/-
The stages of loading an identity, each of them described by itself.

A stage looks at one thing in the two files and fails with an error of its own.  What
it looks at may not be there, because an earlier stage has failed; then it has
nothing to object to.  So the stages can be looked at in any order, and the first one
that fails tells why no identity was loaded.
-/
import CertRotation.Identity
import CertRotation.Pem.Piece

namespace CertRotation.Identity

/-- The two files of an identity: why a file cannot be read, or what it holds. -/
structure Sources where
  certPath : String
  keyPath : String
  cert : Except IoError Pem.Reading
  key : Except IoError Pem.Reading

/-- What is found at a path. -/
def Finds (files : FileTree) (path : String) : Except IoError Pem.Reading → Prop
  | .error e => files.read path = .error e
  | .ok r => ∃ data, files.read path = .ok data ∧ r.Reads data

/-- What can go wrong with a load, in order. -/
inductive Stage where
  | certRead
  | keyRead
  | certIntact
  | certPresent
  | keyIntact
  | keyPresent
  | keySupported
  | leafValid
  | keySigns
  | keyMatches
deriving DecidableEq, Repr

def Stage.all : List Stage :=
  [.certRead, .keyRead, .certIntact, .certPresent, .keyIntact, .keyPresent, .keySupported,
    .leafValid, .keySigns, .keyMatches]

namespace Sources

/-- The two files are found as they are described. -/
structure Found (src : Sources) (files : FileTree) : Prop where
  cert : Finds files src.certPath src.cert
  key : Finds files src.keyPath src.key

/-- All certificates of the certificate file, in order. -/
def chain (src : Sources) : List Bytes :=
  (src.cert.toOption.map (·.certificates)).getD []

/-- The first certificate, as far as it can be parsed. -/
def leaf? (src : Sources) : Option (Except X509.Fault X509.Certificate) :=
  src.chain.head?.map X509.Certificate.ofDer

/-- The first private key of the key file, in its container. -/
def keyBlock? (src : Sources) : Option (Pem.Container × Bytes) :=
  src.key.toOption.bind (·.key?)

/-- The first private key of the key file, if it is supported. -/
def privateKey? (src : Sources) : Option PrivateKey :=
  src.keyBlock?.bind fun (container, der) => PrivateKey.ofDer? container der

/-- The error of a stage, if it fails. -/
def failure (src : Sources) : Stage → Option LoadError
  | .certRead =>
    match src.cert with
    | .error e => some (.read src.certPath e)
    | .ok _ => none
  | .keyRead =>
    match src.key with
    | .error e => some (.read src.keyPath e)
    | .ok _ => none
  | .certIntact =>
    (src.cert.toOption.bind (·.fault?)).map fun f => .malformedPem src.certPath f.message
  | .certPresent =>
    if src.cert.isOk ∧ src.chain = [] then some (.missingCertificate src.certPath) else none
  | .keyIntact =>
    (src.key.toOption.bind (·.aheadOfKey.fault?)).map fun f => .malformedPem src.keyPath f.message
  | .keyPresent =>
    if src.key.isOk ∧ src.keyBlock? = none then some (.missingPrivateKey src.keyPath) else none
  | .keySupported =>
    if src.keyBlock?.isSome ∧ src.privateKey? = none then some (.unsupportedKey unreadableKey)
    else none
  | .leafValid =>
    match src.leaf? with
    | some (.error f) => some (.invalidCertificate f)
    | _ => none
  | .keySigns =>
    match src.privateKey? with
    | some k => if k.signs then none else some (.unsupportedKey (.general "signing failed"))
    | none => none
  | .keyMatches =>
    match src.leaf?, src.privateKey? with
    | some (.ok c), some k => if c.publicKey? = some k.publicKey then none else some .keyMismatch
    | _, _ => none

/-- The error of the first stage that fails. -/
def firstFailure (src : Sources) : Option LoadError :=
  Stage.all.findSome? src.failure

end Sources

/-- Sources that differ at most in what bears neither on the chain nor on the key: text outside of
blocks, blocks of other kinds, and all that follows the first private key. -/
structure Sources.Alike (src src' : Sources) : Prop where
  certPath : src'.certPath = src.certPath
  keyPath : src'.keyPath = src.keyPath
  cert : src'.cert.map (fun r => (r.chainPieces, r.endFault?)) =
    src.cert.map fun r => (r.chainPieces, r.endFault?)
  key : src'.key.map (fun r => (r.keyPieces, r.aheadOfKey.endFault?)) =
    src.key.map fun r => (r.keyPieces, r.aheadOfKey.endFault?)

end Identity
end CertRotation
