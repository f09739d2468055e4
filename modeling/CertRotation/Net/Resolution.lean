/-
Hosts by name, and how a host is reached.

Where no server can be asked, the own host's name is the only one with an
address.  A text that no host can have for a name is not asked for at all, so
the answer differs from that for a name which nobody could be asked about.
-/
import CertRotation.Net.Listening
import CertRotation.Net.ServerName

namespace CertRotation.Net

/-- Finds the address of a host by its name. -/
abbrev Resolver := String → Except IoError IpAddress

/-- A label of a host's name; unlike in a name to verify, it may end with a hyphen. -/
def isHostLabel (l : List Char) : Bool :=
  !l.isEmpty && l.length ≤ 63 && l.all (fun c => ServerName.isWordChar c || c == '-')
    && l.head? != some '-'

/-- Whether a host can have a text for its name. -/
def isHostName (s : List Char) : Bool :=
  s.length ≤ 253 && (ServerName.labels s).all isHostLabel

/-- The name by which a host knows itself. -/
def ownName : List Char := "localhost".toList

/-- A resolver that knows the own host only, by its address. -/
def offlineResolver (own : IpAddress) : Resolver := fun name =>
  if name.toList.map Char.toLower = ownName then .ok own
  else if isHostName name.toList then .error (.unresolved "Temporary failure in name resolution")
  else .error (.unresolved "Name or service not known")

/-- Whether a connection to an address opens, where somebody listens.  No route leads off the host,
and an isolated host does not have the IPv6 address of its own either. -/
def Network.reach (n : Network) (a : IpAddress) : Except IoError Unit :=
  if !a.isLoopback && !a.isUnspecified then .error .networkUnreachable
  else
    match n, a.mapped? with
    | .isolated, none => .error .addressNotAvailable
    | _, _ => n.connect

end CertRotation.Net
