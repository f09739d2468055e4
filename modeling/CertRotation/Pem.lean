/-
PEM bundles: blocks of base64 text between a BEGIN line and an END line.

A bundle is read line by line.  A BEGIN line opens a block or, inside of one,
changes its label; the END line of the current label closes it; every other
line inside a block belongs to its body, and lines outside of blocks are
ignored.  Blocks with an unknown label are skipped whatever they hold.  Each
damaged block is reported in its place, so that a caller may skip it or stop.
-/
import CertRotation.Pem.Base64

namespace CertRotation.Pem

/-- The octets of an ASCII text. -/
def ascii (s : String) : Bytes :=
  s.toList.map fun c => UInt8.ofNat c.toNat

/-- The labels whose blocks are decoded. -/
inductive Label where
  | certificate
  | publicKey
  | rsaPrivateKey
  | privateKey
  | ecPrivateKey
  | revocationList
  | request
  | echConfigs
deriving DecidableEq, Repr

namespace Label

/-- The text of a label. -/
def text : Label → String
  | .certificate => "CERTIFICATE"
  | .publicKey => "PUBLIC KEY"
  | .rsaPrivateKey => "RSA PRIVATE KEY"
  | .privateKey => "PRIVATE KEY"
  | .ecPrivateKey => "EC PRIVATE KEY"
  | .revocationList => "X509 CRL"
  | .request => "CERTIFICATE REQUEST"
  | .echConfigs => "ECHCONFIG"

def all : List Label :=
  [.certificate, .publicKey, .rsaPrivateKey, .privateKey, .ecPrivateKey, .revocationList,
    .request, .echConfigs]

/-- The label of a text, if its blocks are decoded. -/
def ofText? (t : Bytes) : Option Label :=
  all.find? fun l => ascii l.text == t

end Label

/-- Why a block is damaged. -/
inductive Fault where
  | missingEnd
  | illegalBegin
  | badBase64
deriving DecidableEq, Repr

/-- The text of a damage. -/
def Fault.message : Fault → String
  | .missingEnd => "section end missing"
  | .illegalBegin => "illegal section start"
  | .badBase64 => "invalid base64"

/-- What a bundle holds: a decoded block, or a damage in its place. -/
inductive Item where
  | block (label : Label) (der : Bytes)
  | damaged (fault : Fault)
deriving DecidableEq, Repr

/-! ## Lines -/

/-- A line feed or a carriage return ends a line. -/
def isEol (b : UInt8) : Bool :=
  b == 0x0A || b == 0x0D

/-- The lines of a text, without their ends. -/
def lines (s : Bytes) : List Bytes :=
  match s with
  | [] => [[]]
  | b :: r =>
    if isEol b then [] :: lines r
    else
      match lines r with
      | [] => [[b]]
      | l :: ls => (b :: l) :: ls

/-- What follows `start` in a line that starts with it. -/
def after? (start line : Bytes) : Option Bytes :=
  if start.isPrefixOf line then some (line.drop start.length) else none

def beginMark : Bytes := ascii "-----BEGIN "
def endMark : Bytes := ascii "-----END "
def dashes : Bytes := ascii "-----"

/-- Splits hyphens, which may have spaces among them, off the end of a reversed
text: their number, and what stands before the first of them. -/
def trailer (n : Nat) (at_ : Bytes) : Bytes → Nat × Bytes
  | 0x2D :: r => trailer (n + 1) r r
  | 0x20 :: r => trailer n at_ r
  | _ => (n, at_)

/-- The label on a BEGIN line, which must end with exactly five hyphens. -/
def beginLabel? (rest : Bytes) : Option Bytes :=
  let (n, before) := trailer 0 rest.reverse rest.reverse
  if n = 5 then some before.reverse else none

/-- Whether a line is the END line of a label. -/
def isEnd (label line : Bytes) : Bool :=
  (after? (endMark ++ label ++ dashes) line).isSome

/-! ## The scan -/

/-- Inside a block: its label so far and the body so far. -/
abbrev Open := Bytes × Bytes

/-- The item of a block that was closed, `none` for an unknown label. -/
def close (label body : Bytes) : Option Item :=
  (Label.ofText? label).map fun l =>
    match Base64.decode? body with
    | some der => .block l der
    | none => .damaged .badBase64

/-- The items of the lines that follow, inside a block or outside. -/
def scan : Option Open → List Bytes → List Item
  | none, [] => []
  | some _, [] => [.damaged .missingEnd]
  | state, line :: rest =>
    match after? beginMark line with
    | some r =>
      match beginLabel? r with
      | some label => scan (some (label, (state.map (·.2)).getD [])) rest
      | none => .damaged .illegalBegin :: scan none rest
    | none =>
      match state with
      | none => scan none rest
      | some (label, body) =>
        if isEnd label line then (close label body).toList ++ scan none rest
        else scan (some (label, body ++ line)) rest

/-- The items of a bundle, in order. -/
def items (s : Bytes) : List Item :=
  scan none (lines s)

/-- The certificates of a bundle and the damages among them, in order. -/
def certificates (s : Bytes) : List (Except Fault Bytes) :=
  (items s).filterMap fun
    | .block .certificate der => some (.ok der)
    | .block _ _ => none
    | .damaged f => some (.error f)

/-- The containers that hold a private key. -/
inductive Container where
  | pkcs8
  | pkcs1
  | sec1
deriving DecidableEq, Repr

/-- The container that a label announces. -/
def Container.ofLabel? : Label → Option Container
  | .privateKey => some .pkcs8
  | .rsaPrivateKey => some .pkcs1
  | .ecPrivateKey => some .sec1
  | _ => none

/-- The first private key among items; a damage before it is an error. -/
def firstKey : List Item → Except Fault (Option (Container × Bytes))
  | [] => .ok none
  | .damaged f :: _ => .error f
  | .block l der :: r =>
    match Container.ofLabel? l with
    | some c => .ok (some (c, der))
    | none => firstKey r

end CertRotation.Pem
