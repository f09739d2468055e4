/-
Listening for connections at an address of the own host.

Two listeners may not share an address.  Port zero asks for any free port.
-/
import CertRotation.Net.Address
import CertRotation.Net.Network

namespace CertRotation.Net

/-- The IPv4 address that an IPv6 address stands for. -/
def IpAddress.mapped? : IpAddress → Option (Vector UInt8 4)
  | .v4 o => some o
  | .v6 g =>
    match g.toList with
    | [0, 0, 0, 0, 0, 0xFFFF, a, b] =>
      some #v[UInt8.ofNat (a.toNat / 256), UInt8.ofNat (a.toNat % 256),
        UInt8.ofNat (b.toNat / 256), UInt8.ofNat (b.toNat % 256)]
    | _ => none

/-- An address that stands for all addresses of the host. -/
def IpAddress.isUnspecified : IpAddress → Bool
  | .v4 o => o.toList.all (· == 0)
  | .v6 g => g.toList.all (· == 0)

/-- The address at which a host always reaches itself. -/
def IpAddress.isLoopback (a : IpAddress) : Bool :=
  match a with
  | .v4 o => o.toList.head? == some 127
  | .v6 g => g.toList == [0, 0, 0, 0, 0, 0, 0, 1] || a.mapped?.any (·.toList.head? == some 127)

/-- Whether a host may listen at an address.  A host without a route knows no addresses of
its own and takes every IPv4 address for one. -/
def Network.owns (n : Network) (a : IpAddress) : Bool :=
  a.isUnspecified
    || match n with
      | .loopback => a.isLoopback
      | .isolated => a.mapped?.isSome

/-- Whether a listener at one address receives what is sent to the other. -/
def IpAddress.covers (a b : IpAddress) : Bool :=
  a == b || (a.mapped?.isSome && a.mapped? == b.mapped?)
    || (a.isUnspecified && (a.mapped?.isNone || b.mapped?.isSome))

/-- Two listeners that cannot be there at the same time. -/
def SocketAddress.clashes (a b : SocketAddress) : Bool :=
  a.port == b.port && (a.ip.covers b.ip || b.ip.covers a.ip)

/-- No listener is in the way. -/
def SocketAddress.isFree (a : SocketAddress) (taken : List SocketAddress) : Bool :=
  !taken.any a.clashes

/-- The ports that are given out where none is asked for. -/
def freePorts : List UInt16 :=
  (List.range 28232).map fun i => UInt16.ofNat (32768 + i)

/-- The address at which a new listener is reached. -/
def Network.listen (n : Network) (taken : List SocketAddress) (a : SocketAddress) :
    Except IoError SocketAddress :=
  if !n.owns a.ip then .error .addressNotAvailable
  else
    let choices := if a.port = 0 then freePorts.map fun p => { a with port := p } else [a]
    match choices.find? (·.isFree taken) with
    | some a => .ok a
    | none => .error .addressInUse

end CertRotation.Net
