/-
A client and a server that are set up once and meet again and again, while the
identities in their stores are renewed.

A configuration holds no identity.  It holds which store to ask, and asks when a
handshake needs one.  A session that is resumed would skip that question and go
on with the chains of the handshake that it came from, so what a client keeps of
its sessions is part of the state.
-/
import CertRotation.Tls.Encounter

namespace CertRotation.Tls

/-- What one side is set up with. -/
structure Configuration where
  policy : Policy
  /-- The store that is asked for an identity, at each handshake anew. -/
  store : Nat
  roots : TrustPool
  authenticates : Bool := true
  /-- Whether a client keeps its sessions, or a server takes them up again. -/
  resumes : Bool

/-- The configuration of a client, which keeps no sessions. -/
def clientConfiguration (store : Nat) (roots : TrustPool) : Configuration :=
  { policy := .hardened, store, roots, resumes := false }

/-- The configuration of a server, which takes sessions up again as servers do by default. -/
def serverConfiguration (store : Nat) (roots : TrustPool) : Configuration :=
  { policy := .hardened, store, roots, resumes := true }

/-- The side that a configuration is at a handshake, with what its store holds just then. -/
def Configuration.endpoint (c : Configuration) (stores : Nat → CredentialStore) : Endpoint :=
  ⟨c.policy, stores c.store, c.roots, c.authenticates⟩

/-- What a client keeps of a finished handshake: both ends of the session, and the name. -/
structure Ticket where
  name : Net.ServerName
  client : Session
  server : Session

/-- The outcome of a resumed session: both ends know the peer of the handshake it came from. -/
def Ticket.outcome (t : Ticket) : Outcome :=
  ⟨.ok t.client, .ok t.server, true, []⟩

/-- Some stores, and a client and a server set up over them. -/
structure Pairing where
  stores : Nat → CredentialStore
  client : Configuration
  server : Configuration
  tickets : List Ticket := []

namespace Pairing

/-- A client and a server of this program that have not met. -/
def new (stores : Nat → CredentialStore) (client server : Nat) (clientRoots serverRoots : TrustPool) :
    Pairing :=
  ⟨stores, clientConfiguration client clientRoots, serverConfiguration server serverRoots, []⟩

/-- The two sides as they stand at this moment. -/
def encounter (p : Pairing) : Encounter :=
  ⟨p.client.endpoint p.stores, p.server.endpoint p.stores⟩

/-- Installs an identity in one of the stores. -/
def rotate (p : Pairing) (store : Nat) (i : Identity) : Pairing :=
  { p with stores := fun n => if n = store then ((p.stores n).install i).1 else p.stores n }

/-- One thing that happens to two sides. -/
inductive Step where
  | rotates (store : Nat) (identity : Identity)
  | shakesHands (name : Net.ServerName) (now : Int)

section
-- Which tickets the server honours, and when, is left to its TLS stack.
variable (honours : Ticket → Int → Bool)

/-- The ticket with which a handshake is cut short, if both sides resume sessions. -/
def ticket? (p : Pairing) (name : Net.ServerName) (now : Int) : Option Ticket :=
  if p.client.resumes && p.server.resumes then
    p.tickets.find? fun t => t.name = name && honours t now
  else none

/-- What a client has kept after a handshake. -/
def ticketsAfter (p : Pairing) (name : Net.ServerName) (o : Outcome) : List Ticket :=
  match o.client, o.server with
  | .ok c, .ok s => if p.client.resumes then ⟨name, c, s⟩ :: p.tickets else p.tickets
  | _, _ => p.tickets

/-- A handshake at an instant. -/
def meet (p : Pairing) (name : Net.ServerName) (now : Int) : Pairing × Outcome :=
  match p.ticket? honours name now with
  | some t => (p, t.outcome)
  | none =>
    let o := p.encounter.meet name now
    ({ p with tickets := p.ticketsAfter name o }, o)

/-- What one step makes of a pairing. -/
def step (p : Pairing) : Step → Pairing
  | .rotates store i => p.rotate store i
  | .shakesHands name now => (p.meet honours name now).1

/-- What a sequence of steps makes of a pairing. -/
def after (p : Pairing) (steps : List Step) : Pairing :=
  steps.foldl (step honours) p

end

/-- The identities that some steps install in a store, in order. -/
def rotations (store : Nat) (steps : List Step) : List Identity :=
  steps.filterMap fun s =>
    match s with
    | .rotates n i => if n = store then some i else none
    | .shakesHands _ _ => none

end Pairing

/-- What two sides of this program end with, from what they hold and trust, the name and the
instant alone. -/
def between (clientRoots serverRoots : TrustPool) (clientId serverId : Option Identity)
    (name : Net.ServerName) (now : Int) : Outcome :=
  match serverId with
  | none => .refusedByServer .noChain .accessDenied [.noServerIdentity]
  | some s =>
    let events := if clientId.isNone then [.noClientIdentity] else []
    match verifyServer clientRoots s name now with
    | .error f => .refusedByClient (.invalidCertificate f) f.alert events
    | .ok () =>
      match clientId with
      | none => .rejectedByServer .tls13 .noCertificatesPresented .certificateRequired events
      | some c =>
        match verifyClient serverRoots c now with
        | .error f => .rejectedByServer .tls13 (.invalidCertificate f) f.alert []
        | .ok () =>
          ⟨.ok ⟨.tls13, .aes256, .secp384r1, some s.chain, none⟩,
            .ok ⟨.tls13, .aes256, .secp384r1, some c.chain, sentName name⟩, true, []⟩

end CertRotation.Tls
