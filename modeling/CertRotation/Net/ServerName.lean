/-
The name that a client asks for and checks against the server's certificate:
a DNS name or an internet address.

A DNS name is a sequence of labels of letters, digits, underscores and inner
hyphens.  The last label may not be all digits, so that no address, however
abbreviated, is taken for a name.
-/
import CertRotation.Net.Address
import CertRotation.Text.Utf8

namespace CertRotation.Net

open Text

/-- A name to verify: a DNS name as it was written, or an address. -/
inductive ServerName where
  | dns (name : String)
  | ip (address : IpAddress)
deriving DecidableEq, Repr

namespace ServerName

/-- Letters, digits and the underscore, of ASCII. -/
def isWordChar (c : Char) : Bool :=
  c.isAlphanum || c == '_'

/-- A label: 1 to 63 word characters and hyphens, no hyphen at either end. -/
def isLabel (l : List Char) : Bool :=
  !l.isEmpty && l.length ≤ 63 && l.all (fun c => isWordChar c || c == '-')
    && l.head? != some '-' && l.getLast? != some '-'

/-- The labels of a name; one point may end the name. -/
def labels (s : List Char) : List (List Char) :=
  let ls := splitAll '.' s
  if ls.getLast? = some [] then ls.dropLast else ls

/-- Whether a text is a DNS name. -/
def isDnsName (s : List Char) : Bool :=
  let ls := labels s
  (Utf8.encode s).length ≤ 253 && !ls.isEmpty && ls.all isLabel
    && !(ls.getLast?.any (·.all Char.isDigit))

/-- The server name that a text spells; a DNS name is tried first. -/
def parse? (s : List Char) : Option ServerName :=
  if isDnsName s then some (.dns (String.ofList s))
  else (IpAddress.parse? s).map .ip

end ServerName
end CertRotation.Net
