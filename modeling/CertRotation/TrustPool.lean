/-
The roots against which the peer's chain is verified.

A bundle gives every usable root it holds, in order and with repetitions.
Damaged blocks and certificates that are no anchors are passed over and
counted; a bundle without a single usable root is an error.
-/
import CertRotation.Event
import CertRotation.Files
import CertRotation.Pem
import CertRotation.X509.Certificate

namespace CertRotation

/-- Trusted roots, at least one. -/
structure TrustPool where
  roots : List X509.TrustAnchor
  roots_ne_nil : roots ≠ []
deriving DecidableEq

namespace TrustPool

/-- The usable roots among decoded certificates. -/
def anchors (certs : List Bytes) : List X509.TrustAnchor :=
  certs.filterMap fun der => (X509.TrustAnchor.ofDer der).toOption

/-- The blocks of a bundle that were decoded. -/
def decoded (items : List (Except Pem.Fault Bytes)) : List Bytes :=
  items.filterMap Except.toOption

/-- One event for each damaged block, then one for the whole bundle. -/
def events (path : String) (items : List (Except Pem.Fault Bytes)) : List Event :=
  let added := (anchors (decoded items)).length
  let damaged := items.length - (decoded items).length
  List.replicate damaged (.skippedBlock path)
    ++ [.rootsLoaded added path (items.length - added)]

/-- The pool of a bundle, with the events of reading it. -/
def ofPem (text : Bytes) (path : String) : Except LoadError TrustPool × List Event :=
  let items := Pem.certificates text
  let roots := anchors (decoded items)
  let pool :=
    if h : roots ≠ [] then .ok ⟨roots, h⟩ else .error (.missingOrInvalidRoot path none)
  (pool, events path items)

/-- The pool of a file. -/
def load (files : FileTree) (path : String) : Except LoadError TrustPool × List Event :=
  match files.read path with
  | .ok text => ofPem text path
  | .error e => (.error (.missingOrInvalidRoot path (some e)), [])

end TrustPool
end CertRotation
