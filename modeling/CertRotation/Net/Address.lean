/-
Internet addresses and socket addresses in text.

An IPv4 address is four decimal octets without leading zeros.  An IPv6 address
is eight groups, where one run of zero groups may be written `::` and the last
two groups may be written as an IPv4 address.  Written back, an address has one
canonical form: lower case, the first longest run of zeros shortened, and a
mapped IPv4 address dotted.
-/
import CertRotation.Text.Blank
import CertRotation.Text.Decimal

namespace CertRotation.Net

open Text

/-- An internet address of either family. -/
inductive IpAddress where
  | v4 (octets : Vector UInt8 4)
  | v6 (groups : Vector UInt16 8)
deriving DecidableEq, Repr

namespace IpAddress

/-- The octet spelled by one to three digits without a leading zero. -/
def octet? (s : List Char) : Option UInt8 :=
  match s with
  | [] => none
  | ['0'] => some 0
  | '0' :: _ => none
  | _ => if s.length ≤ 3 then (Decimal.upTo? 255 s).map UInt8.ofNat else none

/-- The four octets of a dotted address. -/
def dotted? (s : List Char) : Option (Vector UInt8 4) :=
  match splitAll '.' s with
  | [a, b, c, d] =>
    match octet? a, octet? b, octet? c, octet? d with
    | some a, some b, some c, some d => some #v[a, b, c, d]
    | _, _, _, _ => none
  | _ => none

/-- Reads hexadecimal digits onto a value already read. -/
def readHexOnto (acc : Nat) : List Char → Option Nat
  | [] => some acc
  | c :: r =>
    match Decimal.hexDigit? c with
    | some d => readHexOnto (acc * 16 + d) r
    | none => none

/-- The group spelled by one to four hexadecimal digits. -/
def group? (s : List Char) : Option UInt16 :=
  if s.length = 0 ∨ 4 < s.length then none else (readHexOnto 0 s).map UInt16.ofNat

/-- Two octets as one group. -/
def joinOctets (a b : UInt8) : UInt16 :=
  UInt16.ofNat (a.toNat * 256 + b.toNat)

/-- The two groups of a dotted address. -/
def dottedGroups? (s : List Char) : Option (List UInt16) :=
  (dotted? s).map fun o => [joinOctets o[0] o[1], joinOctets o[2] o[3]]

/-- Groups written in hexadecimal only. -/
def hexGroups? : List (List Char) → Option (List UInt16)
  | [] => some []
  | p :: ps =>
    match group? p, hexGroups? ps with
    | some g, some gs => some (g :: gs)
    | _, _ => none

/-- Groups whose last piece may be a dotted address. -/
def groups? : List (List Char) → Option (List UInt16)
  | [] => some []
  | [p] =>
    match group? p with
    | some g => some [g]
    | none => dottedGroups? p
  | p :: ps =>
    match group? p, groups? ps with
    | some g, some gs => some (g :: gs)
    | _, _ => none

/-- The text before the first double colon and the text after it. -/
def cutDouble : List Char → Option (List Char × List Char)
  | ':' :: ':' :: r => some ([], r)
  | [] => none
  | c :: r => (cutDouble r).map fun (a, b) => (c :: a, b)

/-- The pieces between colons, none for an empty side of a double colon. -/
def pieces (s : List Char) : List (List Char) :=
  if s.isEmpty then [] else splitAll ':' s

/-- All eight groups, the run that a double colon stands for filled with zeros. -/
def allGroups? (s : List Char) : Option (List UInt16) :=
  match cutDouble s with
  | none => groups? (splitAll ':' s)
  | some (l, r) =>
    match hexGroups? (pieces l), groups? (pieces r) with
    | some l, some r =>
      if l.length + r.length ≤ 7 then
        some (l ++ List.replicate (8 - l.length - r.length) 0 ++ r)
      else none
    | _, _ => none

/-- A list of exactly eight groups as an address. -/
def ofGroups? (gs : List UInt16) : Option (Vector UInt16 8) :=
  if h : gs.length = 8 then some ⟨gs.toArray, by simp [h]⟩ else none

/-- The address that a text spells. -/
def parse? (s : List Char) : Option IpAddress :=
  match dotted? s with
  | some o => some (.v4 o)
  | none => ((allGroups? s).bind ofGroups?).map .v6

/-- Four octets with points between them. -/
def writeDotted (o : Vector UInt8 4) : List Char :=
  joinWith ['.'] (o.toList.map fun b => Decimal.write b.toNat)

/-- Groups with colons between them. -/
def writeGroups (gs : List UInt16) : List Char :=
  joinWith [':'] (gs.map fun g => Decimal.writeHex g.toNat)

/-- The length of the run of zeros at the start. -/
def zeroRun (gs : List UInt16) : Nat :=
  (gs.takeWhile (· == 0)).length

/-- Start and length of the first longest run of zeros, counting from `at_`. -/
def longestRun (at_ : Nat) : List UInt16 → Nat × Nat
  | [] => (at_, 0)
  | g :: gs =>
    let here := zeroRun (g :: gs)
    let later := longestRun (at_ + 1) gs
    if later.2 ≤ here then (at_, here) else later

/-- The canonical text of eight groups. -/
def writeV6 (groups : Vector UInt16 8) : List Char :=
  let gs := groups.toList
  if gs.take 6 = [0, 0, 0, 0, 0, 0xFFFF] then
    let octets := (gs.drop 6).flatMap fun g => [g.toNat / 256, g.toNat % 256]
    "::ffff:".toList ++ joinWith ['.'] (octets.map Decimal.write)
  else
    let (start, len) := longestRun 0 gs
    if 1 < len then
      writeGroups (gs.take start) ++ "::".toList ++ writeGroups (gs.drop (start + len))
    else writeGroups gs

/-- The canonical text of an address. -/
def write : IpAddress → List Char
  | .v4 o => writeDotted o
  | .v6 g => writeV6 g

/-- The address in network order. -/
def octets : IpAddress → List UInt8
  | .v4 o => o.toList
  | .v6 g => g.toList.flatMap fun x => [UInt8.ofNat (x.toNat / 256), UInt8.ofNat (x.toNat % 256)]

end IpAddress

/-- An address and a port, with the zone that a bracketed IPv6 address may name. -/
structure SocketAddress where
  ip : IpAddress
  zone : Nat
  port : UInt16
deriving DecidableEq, Repr

namespace SocketAddress

/-- A port: digits of any number, without a sign. -/
def port? (s : List Char) : Option UInt16 :=
  (Decimal.upTo? 65535 s).map UInt16.ofNat

/-- The zone behind a percent sign, zero where there is none. -/
def zone? (s : List Char) : Option (List Char × Nat) :=
  match splitFirst '%' s with
  | none => some (s, 0)
  | some (a, z) => (Decimal.upTo? 4294967295 z).map fun z => (a, z)

/-- Address and port of the bracketed form. -/
def bracketed? (s : List Char) : Option SocketAddress :=
  match splitFirst ']' s with
  | some (inner, ':' :: p) =>
    match zone? inner, port? p with
    | some (a, z), some port =>
      ((IpAddress.allGroups? a).bind IpAddress.ofGroups?).map fun g => ⟨.v6 g, z, port⟩
    | _, _ => none
  | _ => none

/-- The socket address that a text spells: `a.b.c.d:port` or `[groups]:port`. -/
def parse? (s : List Char) : Option SocketAddress :=
  match s with
  | '[' :: r => bracketed? r
  | _ =>
    match splitFirst ':' s with
    | some (a, p) =>
      match IpAddress.dotted? a, port? p with
      | some o, some port => some ⟨.v4 o, 0, port⟩
      | _, _ => none
    | none => none

/-- The canonical text of a socket address. -/
def write (a : SocketAddress) : List Char :=
  match a.ip with
  | .v4 _ => a.ip.write ++ [':'] ++ Decimal.write a.port.toNat
  | .v6 _ =>
    let zone := if a.zone = 0 then [] else '%' :: Decimal.write a.zone
    ['['] ++ a.ip.write ++ zone ++ "]:".toList ++ Decimal.write a.port.toNat

end SocketAddress
end CertRotation.Net
