/-
What a bundle holds, piece by piece.

The lines of any text are a row of pieces: lines outside of blocks, blocks up to
their END lines, blocks that an ill-formed BEGIN line breaks off, and at the very
end perhaps a block that is cut off.  A BEGIN line inside of a block does not start
anew: from there on the label is another one, and the body goes on.  So a block
consists of stretches, each of them under a BEGIN line of its own.
-/
import CertRotation.Pem

namespace CertRotation.Pem

/-! ## Lines -/

/-- A line that begins as BEGIN lines do. -/
def isBegin (line : Bytes) : Bool :=
  (after? beginMark line).isSome

/-- The label on a BEGIN line, if it is well-formed. -/
def label? (line : Bytes) : Option Bytes :=
  (after? beginMark line).bind beginLabel?

/-- A text whose last line is ended. -/
def EndsLine (s : Bytes) : Prop :=
  ∀ b ∈ s.getLast?, isEol b = true

instance (s : Bytes) : Decidable (EndsLine s) :=
  decidable_of_iff (s.getLast?.all isEol = true) (Option.all_eq_true isEol s.getLast?)

/-! ## Stretches -/

/-- A BEGIN line and the body lines under it. -/
structure Stretch where
  opening : Bytes
  label : Bytes
  body : List Bytes
  opens : label? opening = some label
  inside : ∀ line ∈ body, isBegin line = false ∧ isEnd label line = false

namespace Stretch

def lines (t : Stretch) : List Bytes :=
  t.opening :: t.body

/-- The text under the BEGIN line. -/
def text (t : Stretch) : Bytes :=
  t.body.flatten

/-- The text of a row of stretches. -/
def textOf (ts : List Stretch) : Bytes :=
  ts.flatMap text

end Stretch

/-! ## Pieces -/

/-- One piece of a text. -/
inductive Piece where
  /-- A line outside of blocks. -/
  | other (line : Bytes) (outside : isBegin line = false)
  /-- A block and its END line. -/
  | block (before : List Stretch) (last : Stretch) (closing : Bytes)
      (closes : isEnd last.label closing = true)
  /-- An ill-formed BEGIN line, and the block that it breaks off if it stands inside of one. -/
  | broken (before : List Stretch) (line : Bytes) (begins : isBegin line = true)
      (illFormed : label? line = none)

namespace Piece

def lines : Piece → List Bytes
  | .other line _ => [line]
  | .block before last closing _ => before.flatMap Stretch.lines ++ (last.lines ++ [closing])
  | .broken before line _ _ => before.flatMap Stretch.lines ++ [line]

/-- Label and text of a block. -/
def block? : Piece → Option (Bytes × Bytes)
  | .block before last _ _ => some (last.label, Stretch.textOf before ++ last.text)
  | .other _ _ | .broken _ _ _ _ => none

/-- Label and octets of a block that can be decoded. -/
def decoded? (p : Piece) : Option (Label × Bytes) :=
  p.block?.bind fun (label, text) =>
    (Label.ofText? label).bind fun l => (Base64.decode? text).map fun der => (l, der)

/-- What is wrong with a piece.  The text of a block is of no account if the label is unknown. -/
def fault? : Piece → Option Fault
  | .other _ _ => none
  | .block before last _ _ =>
    if (Label.ofText? last.label).isSome
        ∧ Base64.decode? (Stretch.textOf before ++ last.text) = none then
      some .badBase64
    else none
  | .broken _ _ _ _ => some .illegalBegin

/-- The certificate in a piece. -/
def certificate? (p : Piece) : Option Bytes :=
  p.decoded?.bind fun (l, der) => if l = .certificate then some der else none

/-- The private key in a piece, in its container. -/
def key? (p : Piece) : Option (Container × Bytes) :=
  p.decoded?.bind fun (l, der) => (Container.ofLabel? l).map fun c => (c, der)

/-- A piece that is no torso: a single line, or a block with one BEGIN line and an END line. -/
def IsWhole : Piece → Prop
  | .other _ _ => True
  | .block before _ _ _ => before = []
  | .broken _ _ _ _ => False

end Piece

/-! ## Readings -/

/-- The pieces of a text, and what there is of a block that is cut off at its end. -/
structure Reading where
  pieces : List Piece
  cutOff : List Stretch

namespace Reading

def lines (r : Reading) : List Bytes :=
  r.pieces.flatMap Piece.lines ++ r.cutOff.flatMap Stretch.lines

/-- A reading of a text accounts for all of its lines. -/
def Reads (r : Reading) (s : Bytes) : Prop :=
  Pem.lines s = r.lines

instance (r : Reading) (s : Bytes) : Decidable (r.Reads s) :=
  inferInstanceAs (Decidable (Pem.lines s = r.lines))

/-- What is wrong with the end of a text. -/
def endFault? (r : Reading) : Option Fault :=
  if r.cutOff.isEmpty then none else some .missingEnd

/-- The first thing that is wrong with a text. -/
def fault? (r : Reading) : Option Fault :=
  (r.pieces.findSome? Piece.fault?).or r.endFault?

/-- All that is wrong with a text. -/
def faults (r : Reading) : List Fault :=
  r.pieces.filterMap Piece.fault? ++ r.endFault?.toList

/-- The certificates of a text, in order. -/
def certificates (r : Reading) : List Bytes :=
  r.pieces.filterMap Piece.certificate?

/-- The first private key of a text. -/
def key? (r : Reading) : Option (Container × Bytes) :=
  r.pieces.findSome? Piece.key?

/-- What comes before the first private key; all of it where there is none. -/
def aheadOfKey (r : Reading) : Reading where
  pieces := r.pieces.takeWhile fun p => p.key?.isNone
  cutOff := if r.key?.isSome then [] else r.cutOff

/-- What bears on the certificates of a text: they themselves, and damages. -/
def chainPieces (r : Reading) : List Piece :=
  r.pieces.filter fun p => p.fault?.isSome || p.certificate?.isSome

/-- What bears on the first private key of a text: damages before it, and it itself. -/
def keyPieces (r : Reading) : List Piece :=
  r.aheadOfKey.pieces.filter (fun p => p.fault?.isSome) ++ (r.pieces.find? fun p => p.key?.isSome).toList

/-- Nothing but single lines and whole blocks. -/
structure IsBundle (r : Reading) : Prop where
  whole : ∀ p ∈ r.pieces, p.IsWhole
  ended : r.cutOff = []

end Reading
end CertRotation.Pem
