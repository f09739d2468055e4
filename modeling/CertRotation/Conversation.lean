/-
A requester and a greeter, or any other server, on the two ends of a connection.

What a requester meets follows from the network, from the handshake, and from
what the server does with the line that it receives.
-/
import CertRotation.Greeter
import CertRotation.Net.Network
import CertRotation.Requester
import CertRotation.Tls.Handshake

namespace CertRotation.Conversation

open Net

/-- What a server does with the octets that it receives in a session. -/
abbrev Service := Tls.Session → Bytes → List (Timed Arrival)

/-- How a connection opens that the network lets through. -/
def opening (o : Tls.Outcome) : Opening :=
  match o.client with
  | .ok _ => .ready
  | .error f => if o.clientReady then .ready else .rejected f.message

/-- What comes back over a connection: the alert of a server that refused the client, or
what its service sends. -/
def reply (o : Tls.Outcome) (service : Service) (line : Bytes) : List (Timed Arrival) :=
  match o.server, o.client with
  | .ok session, _ => service session line
  | .error _, .error f => [⟨0, .broken (.invalidData f.message)⟩]
  | .error _, .ok _ => [⟨0, .broken cutOff⟩]

/-- What a requester meets at a server. -/
def peer (network : Network) (o : Tls.Outcome) (service : Service) : Peer :=
  match network.connect with
  | .error e => .refusing e
  | .ok () => { opening := some ⟨0, opening o⟩, reply := reply o service }

/-- The greeter as a service: the requester keeps its own direction open. -/
def greeter : Service := fun session line =>
  (Greeter.answer session.serverName ⟨line, .pending⟩).arrivals

/-- A greeter as a requester meets it. -/
def greeterPeer (network : Network) (o : Tls.Outcome) : Peer :=
  peer network o greeter

/-- What a client reads that sends octets of its own choice to a greeter. -/
def exchange (network : Network) (o : Tls.Outcome) (sent : Stream) : Except Failure Stream :=
  match network.connect with
  | .error e => .error (.io e)
  | .ok () =>
    match o.server with
    | .ok session => .ok (Greeter.answer session.serverName sent)
    | .error f => .error (.handshake f.message)

end CertRotation.Conversation
