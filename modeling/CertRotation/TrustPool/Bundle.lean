/-
The roots that a bundle holds, block by block.

A root is a certificate block whose text is base64 of a trust anchor.  The other
blocks of account are those of a known label whose text is not base64, and the
certificates that are no anchors; both are counted, and nothing else is.
-/
import CertRotation.Pem.Piece
import CertRotation.TrustPool

namespace CertRotation.Pem

open X509

namespace Piece

/-- The trust anchor in a piece. -/
def root? (p : Piece) : Option TrustAnchor :=
  p.block?.bind fun (label, text) =>
    if label = ascii Label.certificate.text then
      (Base64.decode? text).bind fun der => (TrustAnchor.ofDer der).toOption
    else none

/-- A block of a known label whose text is not base64. -/
def isUndecodable (p : Piece) : Bool :=
  p.block?.any fun (label, text) => (Label.ofText? label).isSome && (Base64.decode? text).isNone

/-- A certificate block of octets that are no trust anchor. -/
def isRejected (p : Piece) : Bool :=
  p.block?.any fun (label, text) =>
    label == ascii Label.certificate.text && (Base64.decode? text).isSome && p.root?.isNone

/-- A piece behind the stretches of a block that was open before it. -/
def behind (ts : List Stretch) : Piece → Piece
  | .other line outside => .other line outside
  | .block before last closing closes => .block (ts ++ before) last closing closes
  | .broken before line begins illFormed => .broken (ts ++ before) line begins illFormed

end Piece

namespace Reading

/-- The roots of a text, in order. -/
def roots (r : Reading) : List TrustAnchor :=
  r.pieces.filterMap Piece.root?

/-- How many blocks could not be decoded. -/
def undecodable (r : Reading) : Nat :=
  r.pieces.countP Piece.isUndecodable

/-- How many certificates are no trust anchors. -/
def rejected (r : Reading) : Nat :=
  r.pieces.countP Piece.isRejected

end Reading
end CertRotation.Pem
