/-
The identity that new handshakes present, and how it is replaced.

Installing an identity always replaces the current one, key and all; the
generation counts only those installs that change the chain.  A load that fails
has no new store to return, so it cannot leave a trace.
-/
import CertRotation.Event
import CertRotation.Identity
import CertRotation.Settings.Basic

namespace CertRotation

/-- The current identity and the number of times its chain has changed. -/
structure CredentialStore where
  paths : IdentityPaths
  current : Option Identity
  generation : Nat

namespace CredentialStore

/-- A store that has not loaded anything. -/
def new (paths : IdentityPaths) : CredentialStore :=
  ⟨paths, none, 0⟩

/-- Whether an identity has the chain that is current. -/
def hasChain (s : CredentialStore) (i : Identity) : Bool :=
  s.current.any (·.sharesChain i)

/-- Makes an identity the current one. -/
def install (s : CredentialStore) (i : Identity) : CredentialStore × Event :=
  if s.hasChain i then ({ s with current := some i }, .certificateUnchanged)
  else
    ({ s with current := some i, generation := s.generation + 1 },
      .loadedCertificate i.description?)

/-- Installs the identity of a pair of files. -/
def load (s : CredentialStore) (files : FileTree) (cert key : String) :
    Except LoadError (CredentialStore × Event) :=
  (Identity.load files cert key).map s.install

/-- Reads the configured files again. -/
def reload (s : CredentialStore) (files : FileTree) : Except LoadError (CredentialStore × Event) :=
  s.load files s.paths.cert s.paths.key

/-- A store with the configured files loaded. -/
def ofFiles (paths : IdentityPaths) (files : FileTree) :
    Except LoadError (CredentialStore × Event) :=
  (new paths).reload files

/-- The identity to present to a server that asks for one. -/
def forServer (s : CredentialStore) : Option Identity × List Event :=
  match s.current with
  | some i => (some i, [])
  | none => (none, [.noClientIdentity])

/-- The identity to present to a client that connects. -/
def forClient (s : CredentialStore) : Option Identity × List Event :=
  match s.current with
  | some i => (some i, [])
  | none => (none, [.noServerIdentity])

theorem forClient_fst (s : CredentialStore) : s.forClient.1 = s.current := by
  unfold forClient
  cases s.current <;> rfl

/-- Whether there is an identity to present. -/
def hasIdentity (s : CredentialStore) : Bool :=
  s.current.isSome

/-- A text for diagnostics. -/
def debugText (s : CredentialStore) : String :=
  let path (p : String) := String.ofList (Text.Quoted.encodePath p.toList)
  "CredentialStore \x7b paths: IdentityPaths \x7b cert: " ++ path s.paths.cert ++ ", key: "
    ++ path s.paths.key ++ ", root: " ++ path s.paths.root ++ " \x7d, generation: "
    ++ String.ofList (Text.Decimal.write s.generation) ++ " \x7d"

/-! ## Subscriptions -/

/-- A subscriber remembers the generation it saw last. -/
structure Subscription where
  seen : Nat
deriving DecidableEq, Repr

/-- A new subscriber has seen the present generation. -/
def subscribe (s : CredentialStore) : Subscription :=
  ⟨s.generation⟩

/-- Whether the chain has changed since the subscriber looked. -/
def hasChanged (s : CredentialStore) (b : Subscription) : Bool :=
  s.generation != b.seen

end CredentialStore
end CertRotation
