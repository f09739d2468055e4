/-
Elliptic curves in Weierstrass form over a prime field: P-256 and P-384.

Sums and multiples are computed in Jacobian coordinates, where a point is
(x / z^2, y / z^3), so that a multiple needs a single inversion at its end.
The module gives the public key of a private number, the uncompressed form of
points, and the verification of ECDSA signatures.
-/
import CertRotation.Crypto.Sha2

namespace CertRotation.Crypto

/-- A curve y^2 = x^3 - 3 x + b modulo p, with a base point of prime order n. -/
structure WeierstrassCurve where
  p : Nat
  b : Nat
  n : Nat
  gx : Nat
  gy : Nat
  /-- Octets of a field element, and of a number below the order. -/
  size : Nat

namespace WeierstrassCurve

def p256 : WeierstrassCurve where
  p := 0xffffffff00000001000000000000000000000000ffffffffffffffffffffffff
  b := 0x5ac635d8aa3a93e7b3ebbd55769886bc651d06b0cc53b0f63bce3c3e27d2604b
  n := 0xffffffff00000000ffffffffffffffffbce6faada7179e84f3b9cac2fc632551
  gx := 0x6b17d1f2e12c4247f8bce6e563a440f277037d812deb33a0f4a13945d898c296
  gy := 0x4fe342e2fe1a7f9b8ee7eb4a7c0f9e162bce33576b315ececbb6406837bf51f5
  size := 32

def p384 : WeierstrassCurve where
  p := 0xfffffffffffffffffffffffffffffffffffffffffffffffffffffffffffffffeffffffff0000000000000000ffffffff
  b := 0xb3312fa7e23ee7e4988e056be3f82d19181d9c6efe8141120314088f5013875ac656398d8a2ed19d2a85c8edd3ec2aef
  n := 0xffffffffffffffffffffffffffffffffffffffffffffffffc7634d81f4372ddf581a0db248b0a77aecec196accc52973
  gx := 0xaa87ca22be8b05378eb1c71ef320ad746e1d3b628ba79b9859f741e082542a385502f25dbf55296c3a545e3872760ab7
  gy := 0x3617de4a96262c6f5d9e98bf9292dc29f8f41dbd289a147ce9da3113b5f0b8c00a60b1ce1d7e819d7a431d7c90ea0e5f
  size := 48

/-- A point in Jacobian coordinates; z is zero at infinity. -/
structure Jacobian where
  x : Nat
  y : Nat
  z : Nat

variable (c : WeierstrassCurve)

def infinity : Jacobian := ⟨1, 1, 0⟩

def base : Jacobian := ⟨c.gx, c.gy, 1⟩

/-- Twice a point. -/
def double (q : Jacobian) : Jacobian :=
  if q.z = 0 ∨ q.y = 0 then infinity
  else
    let p := c.p
    let yy := q.y * q.y % p
    let s := 4 * q.x * yy % p
    let zz := q.z * q.z % p
    let m := 3 * (q.x + zz) * subMod q.x zz p % p
    let x := subMod (m * m) (2 * s % p) p
    ⟨x, subMod (m * subMod s x p) (8 * (yy * yy % p) % p) p, 2 * q.y * q.z % p⟩

/-- The sum of two points. -/
def add (q r : Jacobian) : Jacobian :=
  if q.z = 0 then r
  else if r.z = 0 then q
  else
    let p := c.p
    let qzz := q.z * q.z % p
    let rzz := r.z * r.z % p
    let u1 := q.x * rzz % p
    let u2 := r.x * qzz % p
    let s1 := q.y * rzz % p * r.z % p
    let s2 := r.y * qzz % p * q.z % p
    if u1 = u2 then (if s1 = s2 then c.double q else infinity)
    else
      let h := subMod u2 u1 p
      let d := subMod s2 s1 p
      let hh := h * h % p
      let hhh := h * hh % p
      let v := u1 * hh % p
      let x := subMod (d * d) ((hhh + 2 * v) % p) p
      ⟨x, subMod (d * subMod v x p) (s1 * hhh % p) p, h * (q.z * r.z % p) % p⟩

/-- The multiple of a point by the low `bits` binary digits of a number. -/
def mulBits (k : Nat) (q : Jacobian) : Nat → Jacobian
  | 0 => infinity
  | bits + 1 =>
    let twice := c.double (mulBits (k / 2) q bits)
    if k % 2 = 1 then c.add twice q else twice

/-- The multiple of a point. -/
def mul (k : Nat) (q : Jacobian) : Jacobian :=
  c.mulBits k q (bitLength k)

/-- Affine coordinates, `none` at infinity. -/
def toAffine (q : Jacobian) : Option (Nat × Nat) :=
  if q.z = 0 then none
  else
    let zi := invMod q.z c.p
    let zz := zi * zi % c.p
    some (q.x * zz % c.p, q.y * (zz * zi % c.p) % c.p)

/-- The uncompressed form of a point. -/
def encodePoint (x y : Nat) : Bytes :=
  0x04 :: (toBytes c.size x ++ toBytes c.size y)

/-- The public key of a private number, in uncompressed form. -/
def publicKey (d : Nat) : Bytes :=
  match c.toAffine (c.mul d c.base) with
  | some (x, y) => c.encodePoint x y
  | none => []

/-- The point of an uncompressed form, if it lies on the curve. -/
def decodePoint? : Bytes → Option (Nat × Nat)
  | 0x04 :: r =>
    if r.length ≠ 2 * c.size then none
    else
      let x := ofBytes (r.take c.size)
      let y := ofBytes (r.drop c.size)
      let rhs := (x * x % c.p * x + 3 * (c.p - x % c.p) + c.b) % c.p
      if x < c.p ∧ y < c.p ∧ y * y % c.p = rhs then some (x, y) else none
  | _ => none

/-- A digest as a number, cut to as many binary digits as the order has. -/
def digestNumber (digest : Bytes) : Nat :=
  let excess := digest.length * 8 - bitLength c.n
  ofBytes digest >>> excess

/-- Whether (r, s) signs a digest under a public key in uncompressed form. -/
def verifies (key : Bytes) (digest : Bytes) (r s : Nat) : Bool :=
  match c.decodePoint? key with
  | none => false
  | some (x, y) =>
    if r = 0 ∨ c.n ≤ r ∨ s = 0 ∨ c.n ≤ s then false
    else
      let w := invMod s c.n
      let u1 := c.digestNumber digest * w % c.n
      let u2 := r * w % c.n
      match c.toAffine (c.add (c.mul u1 c.base) (c.mul u2 ⟨x, y, 1⟩)) with
      | some (px, _) => px % c.n == r
      | none => false

end WeierstrassCurve
end CertRotation.Crypto
