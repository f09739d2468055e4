/-
UTF-8 over lists of octets.

`encode` writes the shortest form of each character and `decode?` accepts
exactly such sequences: no overlong form, no surrogate, nothing beyond
U+10FFFF.  Files and the wire hold octets, every text of the library holds
characters, and these two functions are the only bridge.
-/
namespace CertRotation

/-- File contents and wire data. -/
abbrev Bytes := List UInt8

namespace Text.Utf8

/-- The octets of one character. -/
def encodeChar (c : Char) : Bytes :=
  let n := c.toNat
  if n < 0x80 then [UInt8.ofNat n]
  else if n < 0x800 then [UInt8.ofNat (0xC0 + n / 64), UInt8.ofNat (0x80 + n % 64)]
  else if n < 0x10000 then
    [UInt8.ofNat (0xE0 + n / 4096), UInt8.ofNat (0x80 + n / 64 % 64), UInt8.ofNat (0x80 + n % 64)]
  else
    [UInt8.ofNat (0xF0 + n / 262144), UInt8.ofNat (0x80 + n / 4096 % 64),
      UInt8.ofNat (0x80 + n / 64 % 64), UInt8.ofNat (0x80 + n % 64)]

/-- The octets of a text. -/
def encode (s : List Char) : Bytes :=
  s.flatMap encodeChar

/-- An octet that continues a character. -/
def isTail (b : UInt8) : Bool :=
  0x80 ≤ b.toNat && b.toNat ≤ 0xBF

/-- The first two octets of a character of three octets. -/
def startsThree (a b : UInt8) : Bool :=
  (a.toNat == 0xE0 && 0xA0 ≤ b.toNat && b.toNat ≤ 0xBF)
    || (0xE1 ≤ a.toNat && a.toNat ≤ 0xEC && isTail b)
    || (a.toNat == 0xED && 0x80 ≤ b.toNat && b.toNat ≤ 0x9F)
    || (0xEE ≤ a.toNat && a.toNat ≤ 0xEF && isTail b)

/-- The first two octets of a character of four octets. -/
def startsFour (a b : UInt8) : Bool :=
  (a.toNat == 0xF0 && 0x90 ≤ b.toNat && b.toNat ≤ 0xBF)
    || (0xF1 ≤ a.toNat && a.toNat ≤ 0xF3 && isTail b)
    || (a.toNat == 0xF4 && 0x80 ≤ b.toNat && b.toNat ≤ 0x8F)

/-- The six low bits that a continuing octet carries. -/
def tailBits (b : UInt8) : Nat :=
  b.toNat % 64

/-- The text of an octet sequence, `none` where it is not UTF-8. -/
def decode? : Bytes → Option (List Char)
  | [] => some []
  | a :: r =>
    if a.toNat < 0x80 then (decode? r).map (Char.ofNat a.toNat :: ·)
    else
      match r with
      | [] => none
      | b :: s =>
        if 0xC2 ≤ a.toNat && a.toNat ≤ 0xDF && isTail b then
          (decode? s).map (Char.ofNat (a.toNat % 32 * 64 + tailBits b) :: ·)
        else
          match s with
          | [] => none
          | c :: t =>
            if startsThree a b && isTail c then
              (decode? t).map
                (Char.ofNat (a.toNat % 16 * 4096 + tailBits b * 64 + tailBits c) :: ·)
            else
              match t with
              | [] => none
              | d :: u =>
                if startsFour a b && isTail c && isTail d then
                  (decode? u).map
                    (Char.ofNat (a.toNat % 8 * 262144 + tailBits b * 4096 + tailBits c * 64
                      + tailBits d) :: ·)
                else none

end Text.Utf8
end CertRotation
