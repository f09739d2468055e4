/-
Arithmetic modulo a number: powers by repeated squaring and inverses by the
extended Euclidean algorithm.
-/
import CertRotation.Text.Utf8

namespace CertRotation.Crypto

/-- `base ^ exponent` modulo `m`. -/
def powMod (base exponent m : Nat) : Nat :=
  if exponent = 0 then 1 % m
  else
    let half := powMod (base * base % m) (exponent / 2) m
    if exponent % 2 = 1 then half * base % m else half
termination_by exponent
decreasing_by omega

/-- Coefficients of Euclid's algorithm: the divisor and the factor of the first argument. -/
def euclid (a b : Nat) (x y : Int) : Nat × Int :=
  if b = 0 then (a, x) else euclid b (a % b) y (x - (a / b : Nat) * y)
termination_by b
decreasing_by exact Nat.mod_lt _ (by omega)

/-- The inverse of `a` modulo `m`, zero where there is none. -/
def invMod (a m : Nat) : Nat :=
  let (g, x) := euclid (a % m) m 1 0
  if g = 1 then (x % (m : Int)).toNat else 0

/-- `a - b` modulo `m`, for `b` below `m`. -/
def subMod (a b m : Nat) : Nat :=
  (a + m - b) % m

/-- An unsigned number from octets, most significant first. -/
def ofBytes (s : Bytes) : Nat :=
  s.foldl (fun n b => n * 256 + b.toNat) 0

/-- The `size` low octets of a number, most significant first. -/
def toBytes : Nat → Nat → Bytes
  | 0, _ => []
  | size + 1, n => toBytes size (n / 256) ++ [UInt8.ofNat (n % 256)]

/-- An unsigned number from octets, least significant first. -/
def ofBytesLittle (s : Bytes) : Nat :=
  ofBytes s.reverse

/-- The `size` low octets of a number, least significant first. -/
def toBytesLittle (size n : Nat) : Bytes :=
  (toBytes size n).reverse

/-- The number of binary digits. -/
def bitLength (n : Nat) : Nat :=
  if n = 0 then 0 else n.log2 + 1

end CertRotation.Crypto
