/-
A greeter that serves many connections at once.

Every connection is served by itself.  What the connections share is the
listener, the store that is asked for an identity at each handshake, and the
sessions that the TLS stack takes up again for a client that has kept them.  A
connection ends in one way or another without a word to the loop that accepts;
only the listener and the shutdown end that.
-/
import CertRotation.Conversation
import CertRotation.Tls.Configuration

namespace CertRotation.Greeter.Serving

open Net

/-! ## One connection -/

/-- Where a connection stands. -/
inductive Phase where
  | accepted
  /-- Its client went away, or sent what is no handshake. -/
  | dropped
  /-- Its handshake ended with an alert. -/
  | refused (outcome : Tls.Outcome)
  | reading (outcome : Tls.Outcome) (session : Tls.Session) (received : Bytes)
  | answered (outcome : Tls.Outcome) (answer : Stream)

/-- What a client does on its connection, besides the handshake. -/
inductive Act where
  | sends (octets : Bytes)
  | closes
  | breaks (cause : IoError)

namespace Phase

/-- The phase after a handshake. -/
def shake (o : Tls.Outcome) : Phase :=
  match o.server with
  | .ok session => .reading o session []
  | .error _ => .refused o

/-- The phase after all that was received; an answer ends the connection. -/
def read (o : Tls.Outcome) (session : Tls.Session) (received : Stream) : Phase :=
  let a := answer session.serverName received
  if a.ending = .pending then .reading o session received.octets else .answered o a

/-- The phase after an act of the client. -/
def act (p : Phase) (a : Act) : Phase :=
  match p, a with
  | .accepted, .sends _ => .accepted
  | .accepted, _ => .dropped
  | .reading o session received, .sends octets => read o session ⟨received ++ octets, .pending⟩
  | .reading o session received, .closes => read o session ⟨received, .closed⟩
  | .reading o session received, .breaks c => read o session ⟨received, .broken c⟩
  | p, _ => p

/-- The phase after some acts of the client. -/
def after (p : Phase) (as : List Act) : Phase :=
  as.foldl act p

/-- How the connection has opened for its client. -/
def opening? : Phase → Option Opening
  | .accepted | .dropped => none
  | .refused o | .reading o _ _ | .answered o _ => some (Conversation.opening o)

/-- What the client has received on it. -/
def arrivals : Phase → List (Timed Arrival)
  | .accepted | .dropped => []
  | .refused o => Conversation.reply o Conversation.greeter []
  | .reading .. => Stream.arrivals ⟨[], .pending⟩
  | .answered _ a => a.arrivals

end Phase

/-! ## All connections -/

/-- A greeter, the stores of everyone, and its connections in the order in which they came. -/
structure State where
  stores : Nat → CredentialStore
  greeter : Tls.Configuration
  /-- What each client has kept of its handshakes; a client is known by the store that it asks. -/
  tickets : Nat → List Tls.Ticket := fun _ => []
  /-- How serving has ended; `none` while it goes on. -/
  result : Option (Except IoError Unit) := none
  connections : List Phase := []

/-- What happens to a greeter. -/
inductive Occurrence where
  | connects
  /-- The client of a connection shakes hands, asking for a name at an instant. -/
  | shakesHands (connection : Nat) (client : Tls.Configuration) (name : ServerName) (now : Int)
  | acts (connection : Nat) (act : Act)
  | rotates (store : Nat) (identity : Identity)
  | shutsDown
  /-- The operating system has no connection to give. -/
  | listenerFails (cause : IoError)

namespace Occurrence

/-- How an occurrence ends the serving. -/
def ending? : Occurrence → Option (Except IoError Unit)
  | .shutsDown => some (.ok ())
  | .listenerFails c => some (.error c)
  | _ => none

/-- Whether a client connects. -/
def isConnect : Occurrence → Bool
  | .connects => true
  | _ => false

/-- What an occurrence does on a connection, besides a handshake. -/
def actOn? (connection : Nat) : Occurrence → Option Act
  | .acts c a => if c = connection then some a else none
  | _ => none

/-- The identity that an occurrence installs in a store. -/
def rotation? (store : Nat) : Occurrence → Option Identity
  | .rotates n i => if n = store then some i else none
  | _ => none

end Occurrence

namespace State

/-- A greeter that has just begun to serve. -/
def new (stores : Nat → CredentialStore) (greeter : Nat) (roots : TrustPool) : State :=
  { stores, greeter := Tls.serverConfiguration greeter roots }

/-- The greeter and one client. -/
def pairing (s : State) (client : Tls.Configuration) : Tls.Pairing :=
  ⟨s.stores, client, s.greeter, s.tickets client.store⟩

/-- Leaves a client with some tickets. -/
def keep (s : State) (client : Nat) (tickets : List Tls.Ticket) : State :=
  { s with tickets := fun n => if n = client then tickets else s.tickets n }

/-- Takes the next connection, as long as the serving goes on. -/
def accept (s : State) : State :=
  if s.result.isNone then { s with connections := s.connections ++ [.accepted] } else s

/-- Installs an identity in one of the stores. -/
def rotate (s : State) (store : Nat) (i : Identity) : State :=
  { s with stores := ((s.pairing s.greeter).rotate store i).stores }

section
-- Which tickets the greeter honours, and when, is left to its TLS stack.
variable (honours : Tls.Ticket → Int → Bool)

/-- The handshake of a connection that has had none. -/
def shakeHands (s : State) (c : Nat) (client : Tls.Configuration) (name : ServerName) (now : Int) :
    State :=
  match s.connections[c]? with
  | some .accepted =>
    let (p, outcome) := (s.pairing client).meet honours name now
    { s.keep client.store p.tickets with connections := s.connections.set c (.shake outcome) }
  | _ => s

/-- What an occurrence makes of a greeter. -/
def step (s : State) (o : Occurrence) : State :=
  match o with
  | .connects => s.accept
  | .shakesHands c client name now => s.shakeHands honours c client name now
  | .acts c a => { s with connections := s.connections.modify c (·.act a) }
  | .rotates n i => s.rotate n i
  | .shutsDown | .listenerFails _ => { s with result := s.result.or o.ending? }

/-- What a sequence of occurrences makes of a greeter. -/
def run (s : State) (os : List Occurrence) : State :=
  os.foldl (step honours) s

/-- What a client meets that connects now and shakes hands at once. -/
def peer (s : State) (client : Tls.Configuration) (name : ServerName) (now : Int) : Peer :=
  let c := s.connections.length
  match (s.run honours [.connects, .shakesHands c client name now]).connections[c]? with
  | none => .refusing .connectionRefused
  | some p =>
    { opening := p.opening?.map fun o => ⟨0, o⟩
      reply := fun line => (p.act (.sends line)).arrivals }

end

end State

/-- What the acts of a client amount to: the octets that it sends, in whatever pieces, and how
they end.  Nothing comes behind an end. -/
def sentBy : List Act → Stream
  | [] => ⟨[], .pending⟩
  | .sends octets :: as => { sentBy as with octets := octets ++ (sentBy as).octets }
  | .closes :: _ => ⟨[], .closed⟩
  | .breaks c :: _ => ⟨[], .broken c⟩

/-- The acts of a client in a run. -/
def acts (connection : Nat) (os : List Occurrence) : List Act :=
  os.filterMap (·.actOn? connection)

/-- The identities that a run installs in a store, in order. -/
def rotations (store : Nat) (os : List Occurrence) : List Identity :=
  os.filterMap (·.rotation? store)

/-- A run in which one client connects and no other. -/
def alone (client : Tls.Configuration) (name : ServerName) (now : Int) (as : List Act) :
    List Occurrence :=
  [.connects, .shakesHands 0 client name now] ++ as.map (.acts 0)

end CertRotation.Greeter.Serving
