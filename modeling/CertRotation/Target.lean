/-
Where a greeter is found: a host and a port with a colon between them.

The port is what follows the last colon, so a host may hold colons of its own.
The host is kept as written: it is what is dialled, while `serverName?` is what
is verified.
-/
import CertRotation.Net.Resolution

namespace CertRotation

open Text

/-- Host and port of a greeter. -/
structure Target where
  host : String
  port : UInt16
deriving DecidableEq, Repr

namespace Target

/-- Splits at the last colon; the host may not be empty, the port may have a plus sign. -/
def parse? (s : String) : Option Target :=
  match splitLast ':' s.toList with
  | none => none
  | some (host, port) =>
    match Decimal.unsigned? 65535 port with
    | none => none
    | some p => if host.isEmpty then none else some ⟨String.ofList host, UInt16.ofNat p⟩

/-- The canonical text: host, colon, and the port without leading zeros. -/
def write (t : Target) : String :=
  t.host ++ ":" ++ String.ofList (Decimal.write t.port.toNat)

/-- Drops every opening bracket at the start and every closing bracket at the end. -/
def unbracket (host : List Char) : List Char :=
  ((host.dropWhile (· == '[')).reverse.dropWhile (· == ']')).reverse

/-- Whether there is a bracket to drop. -/
def Bracketed (host : List Char) : Prop :=
  host.head? = some '[' ∨ host.getLast? = some ']'

instance (host : List Char) : Decidable (Bracketed host) :=
  inferInstanceAs (Decidable (_ ∨ _))

/-- The name sent to the server and checked against its certificate. -/
def serverName? (t : Target) : Option Net.ServerName :=
  Net.ServerName.parse? (unbracket t.host.toList)

/-- Where a connection goes: to an address, or to the host that a name is looked up for. -/
inductive Destination where
  | address (ip : Net.IpAddress)
  | lookUp (name : String)
deriving DecidableEq, Repr

namespace Destination

/-- The host that is verified as a destination: an address, or a name to look up. -/
def verified : Net.ServerName → Destination
  | .dns name => .lookUp name
  | .ip a => .address a

/-- Whether a connection to a destination opens, where somebody listens. -/
def dial (d : Destination) (n : Net.Network) (names : Net.Resolver) : Except IoError Unit :=
  match d with
  | .address a => n.reach a
  | .lookUp name => (names name).bind n.reach

end Destination

/-- Where a connection to the target goes.  Only a bare address is dialled as one. -/
def destination (t : Target) : Destination :=
  match Net.IpAddress.parse? t.host.toList with
  | some a => .address a
  | none => .lookUp t.host

end Target
end CertRotation
