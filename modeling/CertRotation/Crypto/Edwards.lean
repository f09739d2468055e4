/-
The twisted Edwards curve -x^2 + y^2 = 1 + d x^2 y^2 modulo 2^255 - 19, and the
signatures over it known as Ed25519.

Points are kept in extended coordinates (x, y, z, t) with x y = z t, for which
one formula adds any two points.
-/
import CertRotation.Crypto.Sha2

namespace CertRotation.Crypto.Ed25519

/-- The weight of the last bit of 32 octets. -/
def signWeight : Nat := Nat.pow 2 255

/-- The modulus of the field. -/
def p : Nat := signWeight - 19

/-- The order of the base point. -/
def order : Nat := signWeight / 8 + 27742317777372353535851937790883648493

/-- The constant of the curve. -/
def d : Nat := 0x52036cee2b6ffe738cc740797779e89800700a4d4141d8ab75eb4dca135978a3

/-- A square root of minus one. -/
def rootMinusOne : Nat := 0x2b8324804fc1df0b2b4d00993dfbd7a72f431806ad2fe478c4ee1b274a0ea0b0

/-- A point in extended coordinates. -/
structure Point where
  x : Nat
  y : Nat
  z : Nat
  t : Nat

def neutral : Point := ⟨0, 1, 1, 0⟩

def ofAffine (x y : Nat) : Point := ⟨x, y, 1, x * y % p⟩

def base : Point :=
  ofAffine 0x216936d3cd6e53fec0a4e231fdd6dc5c692cc7609525a7b2c9562d608f25d51a
    0x6666666666666666666666666666666666666666666666666666666666666658

/-- The sum of two points. -/
def add (a b : Point) : Point :=
  let m := subMod a.y a.x p * subMod b.y b.x p % p
  let n := (a.y + a.x) * (b.y + b.x) % p
  let c := 2 * d * a.t % p * b.t % p
  let e := 2 * a.z * b.z % p
  let f := subMod e c p
  let g := (e + c) % p
  let h := (n + m) % p
  let k := subMod n m p
  ⟨k * f % p, g * h % p, f * g % p, k * h % p⟩

/-- The multiple of a point by the low `bits` binary digits of a number. -/
def mulBits (k : Nat) (q : Point) : Nat → Point
  | 0 => neutral
  | bits + 1 =>
    let half := mulBits (k / 2) q bits
    let twice := add half half
    if k % 2 = 1 then add twice q else twice

/-- The multiple of a point. -/
def mul (k : Nat) (q : Point) : Point :=
  mulBits k q (bitLength k)

/-- The negative of a point. -/
def neg (q : Point) : Point :=
  ⟨subMod 0 q.x p, q.y, q.z, subMod 0 q.t p⟩

/-- The octets of a point: its second coordinate and the parity of the first. -/
def encode (q : Point) : Bytes :=
  let zi := invMod q.z p
  let x := q.x * zi % p
  let y := q.y * zi % p
  toBytesLittle 32 (y + x % 2 * signWeight)

/-- The point of 32 octets, if there is one on the curve. -/
def decode? (s : Bytes) : Option Point :=
  if s.length ≠ 32 then none
  else
    let n := ofBytesLittle s
    let y := n % signWeight % p
    let sign := n / signWeight
    let u := subMod (y * y) 1 p
    let v := (d * (y * y % p) + 1) % p
    let uv3 := u * powMod v 3 p % p
    let r := uv3 * powMod (u * powMod v 7 p % p) ((p - 5) / 8) p % p
    let check := v * (r * r % p) % p
    let x? :=
      if check = u then some r
      else if check = subMod 0 u p then some (r * rootMinusOne % p)
      else none
    x?.map fun x => if x % 2 = sign then ofAffine x y else ofAffine (subMod 0 x p) y

/-- The private number of a seed: half of its digest, with the fixed bits set. -/
def privateNumber (seed : Bytes) : Nat :=
  let h := ofBytesLittle ((Digest.sha512.hash seed).take 32)
  h % (signWeight / 2) / 8 * 8 + signWeight / 2

/-- The public key of a seed. -/
def publicKey (seed : Bytes) : Bytes :=
  encode (mul (privateNumber seed) base)

/-- Whether 64 octets sign a message under a public key. -/
def verifies (key message signature : Bytes) : Bool :=
  let r := signature.take 32
  let s := ofBytesLittle (signature.drop 32)
  if signature.length ≠ 64 ∨ order ≤ s then false
  else
    match decode? key with
    | none => false
    | some a =>
      let h := ofBytesLittle (Digest.sha512.hash (r ++ key ++ message)) % order
      encode (add (mul s base) (mul h (neg a))) == r

end CertRotation.Crypto.Ed25519
