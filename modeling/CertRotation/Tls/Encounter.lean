/-
Two sides that meet while their identities are renewed, each seen as it stands
at the moment of a handshake.
-/
import CertRotation.Tls.Handshake

namespace CertRotation.Tls

/-- Which of the two sides. -/
inductive Side where
  | client
  | server
deriving DecidableEq, Repr

/-- A client and a server. -/
structure Encounter where
  client : Endpoint
  server : Endpoint

namespace Encounter

/-- The store of a side. -/
def store (e : Encounter) : Side → CredentialStore
  | .client => e.client.store
  | .server => e.server.store

/-- Both sides with a new identity on one of them. -/
def rotate (e : Encounter) (side : Side) (i : Identity) : Encounter × Event :=
  let (store, event) := (e.store side).install i
  match side with
  | .client => ({ e with client.store := store }, event)
  | .server => ({ e with server.store := store }, event)

/-- The outcome of a handshake at an instant. -/
def meet (e : Encounter) (name : Net.ServerName) (now : Int) : Outcome :=
  handshake e.client e.server name now

end Encounter
end CertRotation.Tls
