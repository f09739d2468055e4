/-
Durations in text: a number with a unit, and more of them to add or to multiply.

`1m 30s` and `1m+30` are a minute and a half: behind the first term a unit may
be missing, which makes it seconds.  `1m*3` is three minutes: factors count in
seconds.  Sums and products do not mix, and the total fits 64 bits of
nanoseconds.
-/
import CertRotation.Settings.Basic
import CertRotation.Text.Blank
import CertRotation.Text.Decimal

namespace CertRotation.Duration

open Text

/-- The units with their names and their lengths in nanoseconds. -/
def units : List (List String × Nat) :=
  [(["y", "year"], 31536000000000000),
    (["mon", "month"], 2592000000000000),
    (["w", "week"], 604800000000000),
    (["d", "day"], 86400000000000),
    (["h", "hr", "hour"], 3600000000000),
    (["m", "min", "minute"], 60000000000),
    (["s", "sec", "second"], 1000000000),
    (["ms", "msec", "millisecond"], 1000000),
    (["µs", "µsec", "µsecond", "us", "usec", "usecond", "microsecond"], 1000),
    (["ns", "nsec", "nanosecond"], 1)]

/-- A second in nanoseconds. -/
def second : Nat := 1000000000

/-- The largest duration in nanoseconds. -/
def maxNanos : Nat := Decimal.maxWord

/-- The length of a unit; the case of its letters does not matter. -/
def unit? (name : List Char) : Option Nat :=
  (units.find? fun (names, _) => names.contains (String.ofList (name.map Char.toLower))).map (·.2)

/-- A letter of a unit. -/
def isUnitChar (c : Char) : Bool := c.isAlpha || c == 'µ'

/-- White space between terms. -/
def isGap (c : Char) : Bool := c == ' ' || c == '\t' || c == '\r' || c == '\n'

/-- A number of units, if the duration is not too long. -/
def nanos? (digits : List Char) (unit : Nat) : Option Nat :=
  ((Decimal.upTo? maxNanos digits).map (· * unit)).filter (· ≤ maxNanos)

/-- How a term joins the ones before it. -/
inductive Joint where
  | sum
  | product
deriving DecidableEq, Repr

/-- A term: how it joins the ones before it, and its nanoseconds. -/
structure Term where
  joint : Joint
  nanos : Nat
deriving DecidableEq, Repr

/-- Reads a number and its unit; `missing` stands for a unit that is not there. -/
def quantity? (missing : Option Nat) (s : List Char) : Option (Nat × List Char) :=
  let digits := s.takeWhile Decimal.isDigit
  let r := s.dropWhile Decimal.isDigit
  let name := r.takeWhile isUnitChar
  let unit := if name.isEmpty then missing else unit? name
  (unit.bind (nanos? digits)).map fun n => (n, r.dropWhile isUnitChar)

/-- Reads the sign in front of a term, which may be missing. -/
def joint (s : List Char) : Joint × List Char :=
  match s.dropWhile isGap with
  | '+' :: r => (.sum, r.dropWhile isGap)
  | '*' :: r => (.product, r.dropWhile isGap)
  | r => (.sum, r)

/-- Reads terms up to the end, white space aside; `n` bounds their number. -/
def terms? : Nat → List Char → Option (List Term)
  | 0, _ => none
  | n + 1, s =>
    if s.all isBlank then some []
    else
      let (j, r) := joint s
      match quantity? (some second) r with
      | some (t, r) => (terms? n r).map (⟨j, t⟩ :: ·)
      | none => none

/-- The sum of some terms. -/
def sum (ts : List Term) : Nat :=
  ts.foldl (fun n t => n + t.nanos) 0

/-- The product of some factors in whole seconds, the last of them exactly. -/
def product? (ts : List Term) : Option Nat :=
  ts.foldl (fun acc t => acc.bind fun n => some (n / second * t.nanos) |>.filter (· ≤ maxNanos))
    (some second)

/-- The duration of a first term and those that join it, all in the same way. -/
def total? (first : Nat) (ts : List Term) : Option Nat :=
  if ts.all (·.joint = .sum) then some (first + sum ts)
  else if ts.all (·.joint = .product) then (product? ts).map fun n => first * n / second
  else none

/-- The duration that a text spells. -/
def parse? (s : List Char) : Option Duration :=
  match quantity? none s with
  | none => none
  | some (first, r) =>
    (((terms? (s.length + 1) r).bind (total? first)).filter (· ≤ maxNanos)).map Duration.mk

end CertRotation.Duration
