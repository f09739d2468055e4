/-
Real numbers of 64 bits: rounding a quotient, and writing a number back.

A finite number is an integer times a power of two, so all arithmetic here is
exact arithmetic on naturals followed by one rounding.  What is written has the
fewest digits that read back as the same number, and never an exponent.
-/
import CertRotation.Text.Decimal

namespace CertRotation.Document

open Text

/-- A real of 64 bits: `m * 2 ^ q` with a sign, an infinity, or not a number. -/
inductive Real64 where
  | finite (negative : Bool) (m : Nat) (q : Int)
  | infinite (negative : Bool)
  | nan
deriving DecidableEq, Repr

namespace Real64

/-- Bits of a significand, and the exponents of its last bit at least and at most. -/
def precision : Nat := 53
def minExponent : Int := -1074
def maxExponent : Int := 971

/-! ## Rounding -/

/-- The least significand that has all bits. -/
def leastFull : Nat := 0x10000000000000

/-- Powers of two and of ten; those with a negative exponent are one. -/
def twos (k : Int) : Nat := Nat.pow 2 k.toNat
def tens (k : Int) : Nat := Nat.pow 10 k.toNat

/-- A quotient over a power of two, as a quotient of naturals. -/
def shifted (num den : Nat) (q : Int) : Nat × Nat :=
  (num * twos (-q), den * twos q)

/-- A quotient rounded to the nearest integer, a tie to the even one. -/
def nearestEven (num den : Nat) : Nat :=
  let d := num / den
  let r := num % den
  if 2 * r < den then d
  else if den < 2 * r then d + 1
  else d + d % 2

/-- The exponent at which a positive quotient has all bits of a significand. -/
def scale (num den : Nat) : Int :=
  let q : Int := (num.log2 : Int) - den.log2 - precision
  let (n, d) := shifted num den (q + precision)
  max minExponent (if d ≤ n then q + 1 else q)

/-- The number nearest to a quotient. -/
def ofRatio (negative : Bool) (num den : Nat) : Real64 :=
  if num = 0 then .finite negative 0 minExponent
  else
    let q := scale num den
    let (n, d) := shifted num den q
    let m := nearestEven n d
    let (m, q) := if m = 2 * leastFull then (leastFull, q + 1) else (m, q)
    if maxExponent < q then .infinite negative else .finite negative m q

/-- Powers of ten beyond which every number is infinite or zero. -/
def decimalRange : Nat := 400

/-- The number nearest to `digits * 10 ^ e`. -/
def ofDecimal (negative : Bool) (digits : Nat) (e : Int) : Real64 :=
  if digits = 0 then ofRatio negative 0 1
  else if (decimalRange : Int) < e then .infinite negative
  else if e < -(decimalRange + (digits.log2 : Int)) then ofRatio negative 0 1
  else ofRatio negative (digits * tens e) (tens (-e))

/-- A zero of either sign. -/
def isZero : Real64 → Bool
  | .finite _ m _ => m == 0
  | _ => false

/-- The rounded product with a power of ten that is rounded itself. -/
def timesPowerOfTen (x : Real64) (e : Nat) : Real64 :=
  match x, ofDecimal false 1 e with
  | .finite s m q, .finite _ m' q' =>
    let k := q + q'
    ofRatio s (m * m' * twos k) (twos (-k))
  | x, _ => x

/-- The rounded quotient by a power of ten that is rounded itself. -/
def overPowerOfTen (x : Real64) (e : Nat) : Real64 :=
  match x, ofDecimal false 1 e with
  | .finite s m q, .finite _ m' q' =>
    let k := q - q'
    ofRatio s (m * twos k) (m' * twos (-k))
  | x, _ => x

/-! ## Reading -/

/-- Sign, and the rest of a text. -/
def sign (s : List Char) : Bool × List Char :=
  match s with
  | '-' :: r => (true, r)
  | '+' :: r => (false, r)
  | r => (false, r)

/-- Digits at the start of a text and what follows them. -/
def digitRun (s : List Char) : List Char × List Char :=
  (s.takeWhile Decimal.isDigit, s.dropWhile Decimal.isDigit)

/-- The exponent that ends a number; `none` where anything else stands there. -/
def exponent? : List Char → Option Int
  | [] => some 0
  | c :: r =>
    if c = 'e' ∨ c = 'E' then
      let (negative, r) := sign r
      (Decimal.digits? r).map fun n => if negative then -n else n
    else none

/-- Whether two texts agree but for the case of their letters. -/
def sameLetters (a b : List Char) : Bool :=
  a.map Char.toLower == b.map Char.toLower

/-- The number that a text spells: digits with an optional point and exponent, or the name of
a number that is not finite. -/
def parse? (s : List Char) : Option Real64 :=
  let (negative, r) := sign s
  if sameLetters r "inf".toList || sameLetters r "infinity".toList then some (.infinite negative)
  else if sameLetters r "nan".toList then some .nan
  else
    let (whole, r) := digitRun r
    let (fraction, r) := match r with
      | '.' :: r => digitRun r
      | r => ([], r)
    match Decimal.digits? (whole ++ fraction), exponent? r with
    | some n, some e => some (ofDecimal negative n (e - fraction.length))
    | _, _ => none

/-! ## Writing -/

/-- A decimal `digits * 10 ^ e`. -/
structure Digits where
  digits : Nat
  e : Int
deriving DecidableEq, Repr

/-- Compares `a * 10 ^ i` with `n * 2 ^ j`. -/
def compareScaled (a : Nat) (i : Int) (n : Nat) (j : Int) : Ordering :=
  compare (a * tens i * twos (-j)) (n * twos j * tens (-i))

/-- A decimal lies among the reals that round to `m * 2 ^ q`; the ends of that interval belong
to it where `m` is even, and below a power of two it is half as wide. -/
def readsBack (m : Nat) (q : Int) (d : Digits) : Bool :=
  let narrow := m == leastFull && minExponent < q
  let low := compareScaled d.digits d.e (4 * m - (if narrow then 1 else 2)) (q - 2)
  let high := compareScaled d.digits d.e (4 * m + 2) (q - 2)
  let ends := m % 2 == 0
  (low == .gt || (ends && low == .eq)) && (high == .lt || (ends && high == .eq))

/-- The least power of ten above `m * 2 ^ q`, sought upwards from an estimate. -/
def magnitude (m : Nat) (q : Int) : Nat → Int → Int
  | 0, k => k
  | n + 1, k => if compareScaled 1 k m q == .gt then k else magnitude m q n (k + 1)

/-- The power of ten above a number. -/
def digitsBefore (m : Nat) (q : Int) : Int :=
  magnitude m q 4 (((m.log2 : Int) + q) * 1233 / 4096 - 1)

/-- The decimal with its last digit at `10 ^ e` that reads back; of two the nearer, and the
upper one if they are equally near. -/
def onGrid? (m : Nat) (q : Int) (e : Int) : Option Digits :=
  let num := m * twos q * tens (-e)
  let den := twos (-q) * tens e
  let below : Digits := ⟨num / den, e⟩
  let above : Digits := ⟨num / den + 1, e⟩
  match readsBack m q below, readsBack m q above with
  | true, true => some (if 2 * (num % den) < den then below else above)
  | true, false => some below
  | false, true => some above
  | false, false => none

/-- The same decimal without zeros at its end, of which at most `n` are dropped. -/
def dropZeros : Nat → Digits → Digits
  | 0, d => d
  | n + 1, d => if d.digits % 10 = 0 then dropZeros n ⟨d.digits / 10, d.e + 1⟩ else d

/-- The shortest decimal that reads back as `m * 2 ^ q`; seventeen digits always do. -/
def shortest (m : Nat) (q : Int) : Digits :=
  let k := digitsBefore m q
  match (List.range 17).findSome? fun (n : Nat) => onGrid? m q (k - (n + 1)) with
  | some d => dropZeros 17 d
  | none => ⟨m * twos q * tens (-q) / twos (-q), min q 0⟩

/-- A decimal without an exponent. -/
def writePositional (d : Digits) : List Char :=
  let ds := Decimal.write d.digits
  if 0 ≤ d.e then ds ++ List.replicate d.e.toNat '0'
  else
    let places := (-d.e).toNat
    if places < ds.length then ds.take (ds.length - places) ++ ['.'] ++ ds.drop (ds.length - places)
    else ['0', '.'] ++ List.replicate (places - ds.length) '0' ++ ds

/-- The text of a number. -/
def write : Real64 → List Char
  | .nan => "NaN".toList
  | .infinite negative => if negative then "-inf".toList else "inf".toList
  | .finite negative m q =>
    let s := if m = 0 then ['0'] else writePositional (shortest m q)
    if negative then '-' :: s else s

/-! ## Whole numbers -/

/-- The nearest natural of 64 bits: a half goes away from zero, and what is out of range to
the nearer end. -/
def toWord : Real64 → Nat
  | .nan | .infinite true | .finite true _ _ => 0
  | .infinite false => Decimal.maxWord
  | .finite false m q =>
    min Decimal.maxWord (if 0 ≤ q then m * twos q else (2 * m + twos (-q)) / (2 * twos (-q)))

end Real64
end CertRotation.Document
