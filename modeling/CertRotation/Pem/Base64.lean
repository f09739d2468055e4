/-
Base64: four characters for every three octets.

White space between characters is ignored.  The last group may be cut short or
filled with padding; anywhere else padding is an error.
-/
import CertRotation.Text.Utf8

namespace CertRotation.Pem.Base64

/-- What an octet of base64 text means. -/
inductive Symbol where
  | sextet (value : Nat)
  | pad
deriving DecidableEq, Repr

/-- Octets that are skipped. -/
def isBlank (b : UInt8) : Bool :=
  b == 0x20 || (0x09 ≤ b.toNat && b.toNat ≤ 0x0D)

/-- The meaning of an octet that is not skipped. -/
def symbol? (b : UInt8) : Option Symbol :=
  let n := b.toNat
  if 65 ≤ n ∧ n ≤ 90 then some (.sextet (n - 65))
  else if 97 ≤ n ∧ n ≤ 122 then some (.sextet (n - 97 + 26))
  else if 48 ≤ n ∧ n ≤ 57 then some (.sextet (n - 48 + 52))
  else if n = 43 then some (.sextet 62)
  else if n = 47 then some (.sextet 63)
  else if n = 61 then some .pad
  else none

/-- The octets of two, three or four sextets. -/
def one (a b : Nat) : Bytes :=
  [UInt8.ofNat (a * 4 + b / 16)]

def two (a b c : Nat) : Bytes :=
  one a b ++ [UInt8.ofNat (b % 16 * 16 + c / 4)]

def three (a b c d : Nat) : Bytes :=
  two a b c ++ [UInt8.ofNat (c % 4 * 64 + d)]

/-- Octets of a sequence of symbols; only the last group may be short or padded. -/
def groups? : List Symbol → Option Bytes
  | [] => some []
  | [.sextet a, .sextet b] => some (one a b)
  | [.sextet a, .sextet b, .pad, .pad] => some (one a b)
  | [.sextet a, .sextet b, .sextet c] => some (two a b c)
  | [.sextet a, .sextet b, .sextet c, .pad] => some (two a b c)
  | .sextet a :: .sextet b :: .sextet c :: .sextet d :: r =>
    (groups? r).map (three a b c d ++ ·)
  | _ => none

/-- The octets that a base64 text stands for. -/
def decode? (s : Bytes) : Option Bytes :=
  ((s.filter (!isBlank ·)).mapM symbol?).bind groups?

end CertRotation.Pem.Base64
