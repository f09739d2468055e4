/-
Documents in JSON.

The grammar is the strict one: no comment, no trailing comma, and a value must
be followed by nothing but white space.  An integer that does not fit 64 bits
with a sign becomes a real, of two equal names in an object the later one
counts, and nesting is limited.
-/
import CertRotation.Document.Value

namespace CertRotation.Document.Json

open Text

/-- A value, or its parts, and the text that follows. -/
abbrev Parsed (α : Type) := Option (α × List Char)

/-- White space between tokens. -/
def isSpace (c : Char) : Bool :=
  c == ' ' || c == '\t' || c == '\n' || c == '\r'

def skipSpace (s : List Char) : List Char :=
  s.dropWhile isSpace

/-! ## Strings -/

/-- The value of four hexadecimal digits. -/
def hex4? (a b c d : Char) : Option Nat :=
  match Decimal.hexDigit? a, Decimal.hexDigit? b, Decimal.hexDigit? c, Decimal.hexDigit? d with
  | some a, some b, some c, some d => some (((a * 16 + b) * 16 + c) * 16 + d)
  | _, _, _, _ => none

def isHighSurrogate (n : Nat) : Bool := 0xD800 ≤ n && n ≤ 0xDBFF
def isLowSurrogate (n : Nat) : Bool := 0xDC00 ≤ n && n ≤ 0xDFFF

/-- The character that two surrogates stand for. -/
def ofSurrogates (high low : Nat) : Char :=
  Char.ofNat (0x10000 + (high - 0xD800) * 0x400 + (low - 0xDC00))

/-- The character that a single letter after a backslash stands for. -/
def shortEscape? : Char → Option Char
  | '"' => some '"'
  | '\\' => some '\\'
  | '/' => some '/'
  | 'b' => some '\x08'
  | 'f' => some '\x0c'
  | 'n' => some '\n'
  | 'r' => some '\r'
  | 't' => some '\t'
  | _ => none

/-- Puts a character in front of a string that was read. -/
def consChar (c : Char) (p : Parsed (List Char)) : Parsed (List Char) :=
  p.map fun (t, r) => (c :: t, r)

/-- Reads a string up to its closing quote. -/
def string : List Char → Parsed (List Char)
  | [] => none
  | '"' :: r => some ([], r)
  | '\\' :: 'u' :: a :: b :: c :: d :: r =>
    match hex4? a b c d with
    | none => none
    | some n =>
      if isHighSurrogate n then
        match r with
        | '\\' :: 'u' :: a :: b :: c :: d :: r =>
          match hex4? a b c d with
          | some m => if isLowSurrogate m then consChar (ofSurrogates n m) (string r) else none
          | none => none
        | _ => none
      else if isLowSurrogate n then none
      else consChar (Char.ofNat n) (string r)
  | '\\' :: e :: r =>
    match shortEscape? e with
    | some c => consChar c (string r)
    | none => none
  | c :: r => if c.toNat < 0x20 || c == '\\' then none else consChar c (string r)

/-! ## Numbers -/

/-- The largest significand that is kept digit by digit. -/
def maxSignificand : Nat := Decimal.maxWord

/-- Reads digits onto a significand as long as it fits; then counts the digits left over. -/
def significand (n : Nat) : List Char → Nat × Nat
  | [] => (n, 0)
  | c :: r =>
    let n' := n * 10 + (Decimal.digit? c).getD 0
    if n' ≤ maxSignificand then significand n' r else (n, r.length + 1)

/-- A significand times a power of ten: each step rounds, and powers beyond 10 ^ 308 take
several.  `none` where the result is too large. -/
def scaled (x : Real64) : Nat → Int → Option Real64
  | 0, _ => some x
  | n + 1, e =>
    if x.isZero then some x
    else if 308 < e then none
    else if e < -308 then scaled (x.overPowerOfTen 308) n (e + 308)
    else if e < 0 then some (x.overPowerOfTen (-e).toNat)
    else
      match x.timesPowerOfTen e.toNat with
      | .infinite _ => none
      | y => some y

/-- Gives a number its sign. -/
def signed (negative : Bool) : Real64 → Real64
  | .finite _ m q => .finite negative m q
  | x => x

/-- The real of a significand and an exponent; four steps take any of them to zero. -/
def real? (negative : Bool) (n : Nat) (e : Int) : Option Value :=
  (scaled (Real64.ofRatio false n 1) 4 e).map fun x => .real (signed negative x)

/-- The value of an integer without a point or an exponent. -/
def integer (negative : Bool) (n : Nat) : Value :=
  match int64? (if negative then -n else n) with
  | some i => if negative && n == 0 then .real (Real64.ofRatio true 0 1) else .int i
  | none => .real (Real64.ofRatio negative n 1)

/-- The digits of an exponent, with its sign. -/
def exponent? (s : List Char) : Parsed Int :=
  let (negative, r) := Real64.sign s
  let (ds, r) := Real64.digitRun r
  (Decimal.digits? ds).map fun n => (if negative then -n else n, r)

/-- What follows the digits before the point: a fraction, or nothing. -/
def fraction? : List Char → Parsed (List Char)
  | '.' :: r =>
    let (ds, r) := Real64.digitRun r
    if ds.isEmpty then none else some (ds, r)
  | r => some ([], r)

/-- The value of a number's digits: those that do not fit the significand only shift it, and
behind the point not even that. -/
def numberValue (negative : Bool) (whole fraction : List Char) (e : Option Int) : Option Value :=
  let (n, dropped) := significand 0 whole
  if fraction.isEmpty ∧ e.isNone ∧ dropped = 0 then some (integer negative n)
  else
    let (n, cut) := significand n fraction
    real? negative n (e.getD 0 + dropped - (fraction.length - cut : Nat))

/-- What follows the fraction: an exponent, or nothing. -/
def exponentPart? : List Char → Parsed (Option Int)
  | 'e' :: r => (exponent? r).map fun (e, r) => (some e, r)
  | 'E' :: r => (exponent? r).map fun (e, r) => (some e, r)
  | r => some (none, r)

/-- Reads a number behind its sign: a leading zero stands alone. -/
def unsigned (negative : Bool) (s : List Char) : Parsed Value :=
  let (whole, r) := Real64.digitRun s
  if whole.isEmpty || (whole.head? == some '0' && 1 < whole.length) then none
  else
    match fraction? r with
    | none => none
    | some (fraction, r) =>
      match exponentPart? r with
      | none => none
      | some (e, r) => (numberValue negative whole fraction e).map fun v => (v, r)

/-- Reads a number. -/
def number (s : List Char) : Parsed Value :=
  match s with
  | '-' :: r => unsigned true r
  | r => unsigned false r

/-! ## Values -/

/-- What follows a given word at the start of a text. -/
def word? (w : List Char) (v : Value) (s : List Char) : Parsed Value :=
  if w.isPrefixOf s then some (v, s.drop w.length) else none

mutual

/-- Reads a value, with room for `depth` levels of nesting; `n` bounds the steps. -/
def value : Nat → Nat → List Char → Parsed Value
  | 0, _, _ => none
  | n + 1, depth, s =>
    match skipSpace s with
    | '"' :: r => (string r).map fun (t, r) => (.text (String.ofList t), r)
    | '[' :: r =>
      match depth, skipSpace r with
      | 0, _ => none
      | _ + 1, ']' :: r => some (.list [], r)
      | d + 1, r => (elements n d r).map fun (vs, r) => (.list vs, r)
    | '\x7b' :: r =>
      match depth, skipSpace r with
      | 0, _ => none
      | _ + 1, '\x7d' :: r => some (.table [], r)
      | d + 1, r => (members n d [] r).map fun (fs, r) => (.table fs, r)
    | 'n' :: r => word? "ull".toList .null r
    | 't' :: r => word? "rue".toList (.bool true) r
    | 'f' :: r => word? "alse".toList (.bool false) r
    | r => number r

/-- Reads the elements of a list up to its closing bracket. -/
def elements : Nat → Nat → List Char → Parsed (List Value)
  | 0, _, _ => none
  | n + 1, depth, s =>
    match value n depth s with
    | none => none
    | some (v, r) =>
      match skipSpace r with
      | ']' :: r => some ([v], r)
      | ',' :: r => (elements n depth r).map fun (vs, r) => (v :: vs, r)
      | _ => none

/-- Reads the members of an object up to its closing brace. -/
def members : Nat → Nat → Fields → List Char → Parsed Fields
  | 0, _, _, _ => none
  | n + 1, depth, fs, s =>
    match skipSpace s with
    | '"' :: r =>
      match string r with
      | none => none
      | some (k, r) =>
        match skipSpace r with
        | ':' :: r =>
          match value n depth r with
          | none => none
          | some (v, r) =>
            let fs := fs.put (String.ofList k) v
            match skipSpace r with
            | '\x7d' :: r => some (fs, r)
            | ',' :: r => members n depth fs r
            | _ => none
        | _ => none
    | _ => none

end

/-- Levels of nesting at most. -/
def maxDepth : Nat := 127

/-- The document that a text spells. -/
def parse? (s : List Char) : Option Value :=
  match value (2 * s.length + 2) maxDepth s with
  | some (v, r) => if (skipSpace r).isEmpty then some v else none
  | none => none

end CertRotation.Document.Json
