/-
The outcome of a handshake, as a function of the two sides.

The record layer and the key exchange are taken for granted: what is decided
here is which version, suite and group are used, which side presents which
chain, which side refuses whom, and what the other side learns of it.  The order
of the decisions is the order in which a side can detect a fault, so of two
faults the one met first is reported.
-/
import CertRotation.CredentialStore
import CertRotation.TrustPool
import CertRotation.Tls.Policy
import CertRotation.X509.Path

namespace CertRotation.Tls

/-! ## Negotiation -/

namespace Policy

/-- A version is enabled and has a suite. -/
def supports (p : Policy) (v : Version) : Bool :=
  p.versions.contains v && p.suites.any (·.version == v)

/-- Why a policy cannot be used at all. -/
def fault? (p : Policy) : Option Failure :=
  if !p.versions.any p.supports then some (.general "no usable cipher suites configured")
  else if p.groups.isEmpty then some (.general "no kx groups configured")
  else none

/-- The highest version that both support. -/
def version? (client server : Policy) : Option Version :=
  [Version.tls13, Version.tls12].find? fun v => client.supports v && server.supports v

/-- A suite can authenticate a server with this kind of key. -/
def fits (key : KeyAlgorithm) (s : Suite) : Bool :=
  match s.auth with
  | .any => true
  | .ecdsa => key != .rsa
  | .rsa => key == .rsa

/-- The client's first suite that the server can use with its key. -/
def suite? (client server : Policy) (v : Version) (key : KeyAlgorithm) : Option Suite :=
  client.suites.find? fun s => s.version == v && server.suites.contains s && fits key s

/-- The group: in TLS 1.3 the client's first choice if the server takes it, else the
server's first that the client knows. -/
def group? (client server : Policy) (v : Version) : Option Group :=
  let offered := if v = .tls13 then client.groups.take 1 else []
  (offered.find? server.groups.contains).or (server.groups.find? client.groups.contains)

end Policy

/-! ## Verification of the peer -/

/-- Checks a chain for a purpose against trusted roots. -/
def verifyPeer (roots : TrustPool) (i : Identity) (purpose : X509.Purpose) (now : Int) :
    Except X509.Fault X509.Certificate := do
  let c ← X509.Certificate.ofDer i.leaf
  X509.verifyChain roots.roots c i.issuers purpose now
  return c

/-- The client's check of a server: its chain, then its name. -/
def verifyServer (roots : TrustPool) (i : Identity) (name : Net.ServerName) (now : Int) :
    Except CertificateFault Unit :=
  match verifyPeer roots i .server now with
  | .error f => .error (.ofFault f)
  | .ok c =>
    match c.verifyName name with
    | .error f => .error (.ofFault f)
    | .ok () => .ok ()

/-- The server's check of a client. -/
def verifyClient (roots : TrustPool) (i : Identity) (now : Int) : Except CertificateFault Unit :=
  match verifyPeer roots i .client now with
  | .error f => .error (.ofFault f)
  | .ok _ => .ok ()

/-! ## The handshake -/

/-- One side: what it allows, what it presents, whom it trusts, and whether it takes part in
client authentication, as a server that asks or a client that answers. -/
structure Endpoint where
  policy : Policy
  store : CredentialStore
  roots : TrustPool
  authenticates : Bool := true

namespace Endpoint

/-- A side of this program. -/
def hardened (store : CredentialStore) (roots : TrustPool) : Endpoint :=
  ⟨.hardened, store, roots, true⟩

/-- What a client answers to a request for a certificate. -/
def clientIdentity (client : Endpoint) : Option Identity × List Event :=
  if client.authenticates then client.store.forServer else (none, [])

end Endpoint

/-- What a side knows after a finished handshake. -/
structure Session where
  version : Version
  suite : Suite
  group : Group
  /-- The chain that the other side presented. -/
  peer : Option (List Bytes)
  /-- The name that the client asked for. -/
  serverName : Option String

/-- What both sides end with, and what was reported on the way. -/
structure Outcome where
  client : Except Failure Session
  server : Except Failure Session
  /-- The client had done its part when it learnt how the server decided. -/
  clientReady : Bool
  events : List Event

namespace Outcome

/-- The server gives up and tells the client why. -/
def refusedByServer (f : Failure) (a : Alert) (events : List Event) : Outcome :=
  ⟨.error (.alertReceived a), .error f, false, events⟩

/-- The server gives up on the client's certificate: in TLS 1.3 that comes last. -/
def rejectedByServer (v : Version) (f : Failure) (a : Alert) (events : List Event) : Outcome :=
  { refusedByServer f a events with clientReady := v == .tls13 }

/-- The client gives up and tells the server why. -/
def refusedByClient (f : Failure) (a : Alert) (events : List Event) : Outcome :=
  ⟨.error f, .error (.alertReceived a), false, events⟩

end Outcome

/-- The name that goes over the wire: a DNS name in lower case without its last point. -/
def sentName : Net.ServerName → Option String
  | .dns n =>
    let s := n.toList.map Char.toLower
    some (String.ofList (if s.getLast? = some '.' then s.dropLast else s))
  | .ip _ => none

/-- Client authentication and the end of a handshake whose server was accepted. -/
def finish (client server : Endpoint) (name : Net.ServerName) (now : Int) (v : Version)
    (s : Suite) (g : Group) (serverId : Identity) : Outcome :=
  let (clientId, events) := if server.authenticates then client.clientIdentity else (none, [])
  let done (peer : Option (List Bytes)) : Outcome :=
    ⟨.ok ⟨v, s, g, some serverId.chain, none⟩, .ok ⟨v, s, g, peer, sentName name⟩, true, events⟩
  match verifyServer client.roots serverId name now with
  | .error f => .refusedByClient (.invalidCertificate f) f.alert events
  | .ok () =>
    if server.authenticates then
      match clientId with
      | none => .rejectedByServer v .noCertificatesPresented .certificateRequired events
      | some i =>
        match verifyClient server.roots i now with
        | .error f => .rejectedByServer v (.invalidCertificate f) f.alert events
        | .ok () => done (some i.chain)
    else done none

/-- The handshake of two sides. -/
def handshake (client server : Endpoint) (name : Net.ServerName) (now : Int) : Outcome :=
  match Policy.version? client.policy server.policy with
  | none => .refusedByServer (.incompatible .noVersion) .protocolVersion []
  | some v =>
    match server.store.forClient with
    | (none, events) => .refusedByServer .noChain .accessDenied events
    | (some i, _) =>
      match Policy.suite? client.policy server.policy v i.key.algorithm with
      | none => .refusedByServer (.incompatible .noCipherSuites) .handshakeFailure []
      | some s =>
        match Policy.group? client.policy server.policy v with
        | none => .refusedByServer (.incompatible .noGroups) .handshakeFailure []
        | some g => finish client server name now v s g i

end CertRotation.Tls
