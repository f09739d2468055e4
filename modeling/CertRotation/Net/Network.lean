/-
Whether the program's own host can be reached.

Listening always works.  A connection to the own host needs a loopback route;
on an isolated host every connection fails before a single octet is sent.
-/
import CertRotation.Error

namespace CertRotation.Net

/-- The network of a run. -/
inductive Network where
  | loopback
  | isolated
deriving DecidableEq, Repr

/-- Opens a connection to the own host. -/
def Network.connect : Network → Except IoError Unit
  | .loopback => .ok ()
  | .isolated => .error .networkUnreachable

end CertRotation.Net
