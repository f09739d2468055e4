/-
An agent that renews the two files of an identity while they are being read.

The agent puts certificates and keys of its versions in place by renames, one
file at a time, in any order and at any moment.  A load reads the certificate
first and the key later, so it can see the certificate of one version and the key
of another.  Any number of loads may be under way at once: the lock that keeps
them apart in the program is not needed for anything that is said here.
-/
import CertRotation.CredentialStore

namespace CertRotation.Provisioning

/-- The contents of the two files in one version. -/
structure Version where
  cert : Bytes
  key : Bytes
deriving DecidableEq, Repr

/-- The identity of a version, both of whose files are read together. -/
def Version.identity (paths : IdentityPaths) (v : Version) : Except LoadError Identity :=
  Identity.ofPem v.cert paths.cert v.key paths.key

/-- The version that each file has, none before the first rename. -/
structure Published where
  cert : Option Version := none
  key : Option Version := none
deriving DecidableEq, Repr

/-- The files, the store, the loads under way and the ends of those that are over. -/
structure State where
  files : FileTree
  store : CredentialStore
  published : Published := {}
  /-- The certificate that a load has read, if it is under way. -/
  loads : Nat → Option Bytes := fun _ => none
  outcomes : List (Nat × Except LoadError Identity) := []

/-- One atomic step of the agent or of a load. -/
inductive Move where
  | renameCert (version : Version)
  | renameKey (version : Version)
  | readCert (load : Nat)
  | readKey (load : Nat)

/-- The version that a move puts in place, by half. -/
def Move.version? : Move → Option Version
  | .renameCert v | .renameKey v => some v
  | .readCert _ | .readKey _ => none

/-- The load that a move belongs to. -/
def Move.load? : Move → Option Nat
  | .renameCert _ | .renameKey _ => none
  | .readCert n | .readKey n => some n

/-- All versions of which some moves put a file in place. -/
def versions (moves : List Move) : List Version :=
  moves.filterMap Move.version?

/-- The identities among some outcomes. -/
def installs (outcomes : List (Nat × Except LoadError Identity)) : List Identity :=
  outcomes.filterMap (·.2.toOption)

namespace State

/-- A load goes on with the certificate that it has read. -/
def hold (s : State) (load : Nat) (cert : Bytes) : State :=
  { s with loads := fun n => if n = load then some cert else s.loads n }

/-- Ends a load: an identity is installed, an error leaves the store alone. -/
def finish (s : State) (load : Nat) (result : Except LoadError Identity) : State :=
  { s with
    store := match result with
      | .ok i => (s.store.install i).1
      | .error _ => s.store
    loads := fun n => if n = load then none else s.loads n
    outcomes := s.outcomes ++ [(load, result)] }

/-- What the second read makes of the certificate that the first one found. -/
def result (s : State) (cert : Bytes) : Except LoadError Identity :=
  match Identity.fileOf s.files s.store.paths.key with
  | .error e => .error e
  | .ok key => Identity.ofPem cert s.store.paths.cert key s.store.paths.key

/-- What a move makes of a state.  A load that is under way does not begin again, and one that is
not has no second read. -/
def step (s : State) : Move → State
  | .renameCert v =>
    { s with files := s.files.write s.store.paths.cert v.cert, published.cert := some v }
  | .renameKey v =>
    { s with files := s.files.write s.store.paths.key v.key, published.key := some v }
  | .readCert n =>
    match s.loads n with
    | some _ => s
    | none =>
      match Identity.fileOf s.files s.store.paths.cert with
      | .ok cert => s.hold n cert
      | .error e => s.finish n (.error e)
  | .readKey n =>
    match s.loads n with
    | none => s
    | some cert => s.finish n (s.result cert)

/-- What a sequence of moves makes of a state. -/
def run (s : State) (moves : List Move) : State :=
  moves.foldl step s

end State

/-! ## What the agent keeps to -/

/-- In every version the key is the leaf's, and no two versions share a key pair. -/
structure Publishable (paths : IdentityPaths) (versions : List Version) : Prop where
  loads : ∀ v ∈ versions, ∃ i, v.identity paths = .ok i
  distinct : ∀ v ∈ versions, ∀ w ∈ versions, v ≠ w → ∀ i j,
    v.identity paths = .ok i → w.identity paths = .ok j → i.key.publicKey ≠ j.key.publicKey

/-- Within a run, a load reads the certificate after `before` and the key after `between`. -/
structure LoadIn (start : State) (moves before : List Move) (load : Nat) (between : List Move) :
    Prop where
  within : before ++ .readCert load :: between ++ [.readKey load] <+: moves
  idle : (start.run before).loads load = none
  alone : ∀ m ∈ between, m.load? ≠ some load

end CertRotation.Provisioning
