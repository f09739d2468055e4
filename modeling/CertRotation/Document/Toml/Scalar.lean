/-
The scalars of TOML: keys, strings, numbers, and dates with times.

Every reader takes the text at hand and gives back what it read with the rest.
Line breaks have been made single line feeds before.
-/
import CertRotation.Document.Value

namespace CertRotation.Document.Toml

open Text

/-- What was read, and the text that follows. -/
abbrev Parsed (α : Type) := Option (α × List Char)

/-- White space inside a line. -/
def isBlank (c : Char) : Bool :=
  c == ' ' || c == '\t'

def skipBlanks (s : List Char) : List Char :=
  s.dropWhile isBlank

/-- A character that may stand in a comment or in a string. -/
def isPrintable (c : Char) : Bool :=
  c == '\t' || 0x20 ≤ c.toNat

/-- A character of a word: a bare key, a number, a date, or a truth value. -/
def isWordChar (c : Char) : Bool :=
  c.isAlphanum || c == '-' || c == '_'

/-- A word at the start of a text. -/
def word? (s : List Char) : Parsed (List Char) :=
  let w := s.takeWhile isWordChar
  if w.isEmpty then none else some (w, s.dropWhile isWordChar)

/-! ## Strings -/

/-- Puts characters in front of a string that was read. -/
def prepend (cs : List Char) (p : Parsed (List Char)) : Parsed (List Char) :=
  p.map fun (t, r) => (cs ++ t, r)

/-- A character that may stand unescaped in a string. -/
def isStringChar (c : Char) : Bool :=
  isPrintable c && c.toNat ≠ 0x7F

/-- The value of hexadecimal digits. -/
def hexValue? (ds : List Char) : Option Nat :=
  ds.foldl (fun n d => n.bind fun n => (Decimal.hexDigit? d).map (n * 16 + ·)) (some 0)

/-- The character that escaped digits stand for; a surrogate stands for none. -/
def escaped? (ds : List Char) : Option Char :=
  (hexValue? ds).bind fun n => if h : n.isValidChar then some (Char.ofNatAux n h) else none

/-- The character that a single letter after a backslash stands for. -/
def shortEscape? : Char → Option Char
  | '"' => some '"'
  | '\\' => some '\\'
  | 'b' => some '\x08'
  | 'f' => some '\x0c'
  | 'n' => some '\n'
  | 'r' => some '\r'
  | 't' => some '\t'
  | _ => none

/-- What a quote in a string of several lines amounts to: the end only where three stand in a
row, of up to five the last three. -/
def manyQuotes (quote : Char) (s : List Char) : Option (List Char) × List Char :=
  let n := (s.takeWhile (· == quote)).length
  if n < 3 then (none, [])
  else (some (List.replicate (min n 5 - 3) quote), s.drop (min n 5))

/-- Reads a string without escapes up to its end. -/
def literal (many : Bool) : List Char → Parsed (List Char)
  | [] => none
  | '\'' :: r =>
    if many then
      match manyQuotes '\'' ('\'' :: r) with
      | (some t, r) => some (t, r)
      | (none, _) => prepend ['\''] (literal many r)
    else some ([], r)
  | c :: r =>
    if (c = '\n' ∧ many) ∨ isStringChar c then prepend [c] (literal many r) else none

/-- Where the reader of a string with escapes is: in its text, behind a backslash at the end of
a line, or in the white space that such a line end swallows. -/
inductive Place where
  | text
  | lineEnd
  | margin
deriving DecidableEq

/-- Reads a string with escapes up to its end. -/
def basic (many : Bool) : Place → List Char → Parsed (List Char)
  | _, [] => none
  | .lineEnd, c :: r =>
    if isBlank c then basic many .lineEnd r
    else if c = '\n' then basic many .margin r
    else none
  | _, '"' :: r =>
    if many then
      match manyQuotes '"' ('"' :: r) with
      | (some t, r) => some (t, r)
      | (none, _) => prepend ['"'] (basic many .text r)
    else some ([], r)
  | _, '\\' :: 'u' :: a :: b :: c :: d :: r =>
    match escaped? [a, b, c, d] with
    | some x => prepend [x] (basic many .text r)
    | none => none
  | _, '\\' :: 'U' :: a :: b :: c :: d :: e :: f :: g :: h :: r =>
    match escaped? [a, b, c, d, e, f, g, h] with
    | some x => prepend [x] (basic many .text r)
    | none => none
  | _, '\\' :: e :: r =>
    if many ∧ isBlank e then basic many .lineEnd r
    else if many ∧ e = '\n' then basic many .margin r
    else
      match shortEscape? e with
      | some x => prepend [x] (basic many .text r)
      | none => none
  | p, c :: r =>
    if p = .margin ∧ (isBlank c ∨ c = '\n') then basic many .margin r
    else if (c = '\n' ∧ many) ∨ (isStringChar c ∧ c ≠ '\\') then
      prepend [c] (basic many .text r)
    else none

/-- A string, with or without escapes, and whether it may have several lines. -/
structure Quoted where
  value : List Char
  many : Bool

/-- Reads a string at its opening quote. -/
def quoted? : List Char → Parsed Quoted
  | '"' :: '"' :: '"' :: r =>
    let r := match r with | '\n' :: r => r | r => r
    (basic true .text r).map fun (t, r) => (⟨t, true⟩, r)
  | '"' :: r => (basic false .text r).map fun (t, r) => (⟨t, false⟩, r)
  | '\'' :: '\'' :: '\'' :: r =>
    let r := match r with | '\n' :: r => r | r => r
    (literal true r).map fun (t, r) => (⟨t, true⟩, r)
  | '\'' :: r => (literal false r).map fun (t, r) => (⟨t, false⟩, r)
  | _ => none

/-! ## Keys -/

/-- Reads one part of a key: a word, or a string of one line. -/
def keyPart? (s : List Char) : Parsed String :=
  match quoted? s with
  | some (q, r) => if q.many then none else some (String.ofList q.value, r)
  | none => (word? s).map fun (w, r) => (String.ofList w, r)

/-- Reads the parts of a key with points between them; `n` bounds their number. -/
def key? : Nat → List Char → Parsed (List String)
  | 0, _ => none
  | n + 1, s =>
    match keyPart? (skipBlanks s) with
    | none => none
    | some (k, r) =>
      match skipBlanks r with
      | '.' :: r => (key? n r).map fun (ks, r) => (k :: ks, r)
      | r => some ([k], r)

/-! ## Numbers -/

/-- A digit of a number in some base. -/
def isDigitOf (base : Nat) (c : Char) : Bool :=
  (Decimal.hexDigit? c).any (· < base)

/-- Checks digits with single underscores between them; only where `zeros` allows it may more
follow a zero at the start.  Gives back the digits, and the text from the first character that
belongs to none. -/
def digitsFrom (base : Nat) (zeros : Bool) (before : Option Char) (zeroFirst : Bool) :
    List Char → Parsed (List Char)
  | [] => if before.isNone ∨ before = some '_' then none else some ([], [])
  | c :: r =>
    if isDigitOf base c then
      if zeroFirst ∧ !zeros then none
      else
        prepend [c] (digitsFrom base zeros (some c) (zeroFirst || (before.isNone && c == '0')) r)
    else if c = '_' then
      if before.isNone then none
      else if before = some '_' then none
      else digitsFrom base zeros (some c) zeroFirst r
    else if before.isNone ∨ before = some '_' then none
    else some ([], c :: r)

/-- Digits of a base at the start of a text. -/
def digits? (base : Nat) (zeros : Bool) (s : List Char) : Parsed (List Char) :=
  digitsFrom base zeros none false s

/-- An integer in a base, with a sign only where `signed` allows it. -/
def integer? (base : Nat) (signed : Bool) (s : List Char) : Option Int :=
  let (negative, r) := if signed then Real64.sign s else (false, s)
  match digits? base (base ≠ 10) r with
  | some (ds, []) =>
    let n := ds.foldl (fun n d => n * base + (Decimal.hexDigit? d).getD 0) 0
    int64? (if negative then -(n : Int) else n)
  | _ => none

/-- The exponent of a real: what follows the letter in its word, or else a plus sign and a word
of its own. -/
def exponent? (suffix rest : List Char) : Parsed Int :=
  match suffix with
  | [] => some (0, rest)
  | e :: ds =>
    if e ≠ 'e' ∧ e ≠ 'E' then none
    else
      let (negative, ds, rest) : Bool × List Char × List Char :=
        if ds.isEmpty then
          let r := match rest with | '+' :: r => r | r => r
          (false, r.takeWhile isWordChar, r.dropWhile isWordChar)
        else ((Real64.sign ds).1, (Real64.sign ds).2, rest)
      match digits? 10 true ds with
      | some (ds, []) =>
        (Decimal.digits? ds).map fun n => (if negative then -(n : Int) else n, rest)
      | _ => none

/-- A real: a word, perhaps a point and a second word, and an exponent.  It must be finite. -/
def real? (w : List Char) (fraction : Option (List Char)) (rest : List Char) : Parsed Value :=
  let (negative, r) := Real64.sign w
  match digits? 10 false r with
  | none => none
  | some (whole, suffix) =>
    let parts : Option (List Char × List Char) := match fraction with
      | none => some ([], suffix)
      | some f => if suffix.isEmpty then digits? 10 true f else none
    match parts with
    | none => none
    | some (fraction, suffix) =>
      match exponent? suffix rest, Decimal.digits? (whole ++ fraction) with
      | some (e, rest), some n =>
        match Real64.ofDecimal negative n (e - fraction.length) with
        | .infinite _ => none
        | x => some (.real x, rest)
      | _, _ => none

/-- A number whose first word is given. -/
def number? (w rest : List Char) : Parsed Value :=
  let whole (i : Option Int) : Parsed Value := i.map fun i => (.int i, rest)
  match w with
  | '0' :: 'x' :: ds => whole (integer? 16 false ds)
  | '0' :: 'o' :: ds => whole (integer? 8 false ds)
  | '0' :: 'b' :: ds => whole (integer? 2 false ds)
  | _ =>
    if w.contains 'e' || w.contains 'E' then real? w none rest
    else
      match rest with
      | '.' :: r =>
        match word? r with
        | some (f, r) => real? w (some f) r
        | none => none
      | _ =>
        if w = "inf".toList then some (.real (.infinite false), rest)
        else if w = "-inf".toList then some (.real (.infinite true), rest)
        else if w = "nan".toList ∨ w = "-nan".toList then some (.real .nan, rest)
        else whole (integer? 10 true w)

/-! ## Dates and times -/

/-- A given character at the start of a text. -/
def char? (c : Char) : List Char → Option (List Char)
  | d :: r => if c = d then some r else none
  | [] => none

/-- Reads `n` decimal digits. -/
def fixed? : Nat → Nat → List Char → Parsed Nat
  | 0, acc, s => some (acc, s)
  | _ + 1, _, [] => none
  | n + 1, acc, c :: r => (Decimal.digit? c).bind fun d => fixed? n (acc * 10 + d) r

/-- A date; each month may have 31 days. -/
def date? (s : List Char) : Option (List Char × List Char) := do
  let (y, s) ← fixed? 4 0 s
  let s ← char? '-' s
  let (m, s) ← fixed? 2 0 s
  let s ← char? '-' s
  let (d, s) ← fixed? 2 0 s
  if 1 ≤ m ∧ m ≤ 12 ∧ 1 ≤ d ∧ d ≤ 31 then
    some (Decimal.padded 4 y ++ '-' :: Decimal.padded 2 m ++ '-' :: Decimal.padded 2 d, s)
  else none

/-- Fractions of a second in nanoseconds, without zeros at the end. -/
def writeFraction (ds : List Char) : List Char :=
  let ds := ((ds.take 9).reverse.dropWhile (· == '0')).reverse
  if ds.isEmpty then [] else '.' :: ds

/-- A time of day; the hour 24 and the second 60 exist. -/
def time? (s : List Char) : Option (List Char × List Char) := do
  let (h, s) ← fixed? 2 0 s
  let s ← char? ':' s
  let (m, s) ← fixed? 2 0 s
  let s ← char? ':' s
  let (sec, s) ← fixed? 2 0 s
  let (fraction, s) ← match s with
    | '.' :: r =>
      let (ds, r) := Real64.digitRun r
      if ds.isEmpty then none else some (ds, r)
    | s => some ([], s)
  if h ≤ 24 ∧ m ≤ 59 ∧ sec ≤ 60 then
    some (Decimal.padded 2 h ++ ':' :: Decimal.padded 2 m ++ ':' :: Decimal.padded 2 sec
      ++ writeFraction fraction, s)
  else none

/-- The offset of a time from universal time, where one is given. -/
def offset? : List Char → Option (List Char)
  | [] => some []
  | ['Z'] => some ['Z']
  | ['z'] => some ['Z']
  | c :: s => do
    if c ≠ '+' ∧ c ≠ '-' then none
    let (h, s) ← fixed? 2 0 s
    let s ← char? ':' s
    let (m, s) ← fixed? 2 0 s
    let c := if h = 0 then '+' else c
    if s.isEmpty then some (c :: Decimal.padded 2 h ++ ':' :: Decimal.padded 2 m) else none

/-- The canonical text of a date, of a time, or of both; only both may have an offset. -/
def moment? (s : List Char) : Option (List Char) :=
  if s[2]? = some ':' then
    match time? s with
    | some (t, []) => some t
    | _ => none
  else
    match date? s with
    | none => none
    | some (d, []) => some d
    | some (d, c :: r) =>
      if c = 'T' ∨ c = 't' ∨ c = ' ' then
        match time? r with
        | none => none
        | some (t, r) => (offset? r).map fun o => d ++ 'T' :: t ++ o
      else none

/-- A character and the word behind it. -/
def charWord? (c : Char) (s : List Char) : Parsed (List Char) :=
  match char? c s with
  | some r => (word? r).map fun (w, r) => (c :: w, r)
  | none => none

/-- A character and the word behind it, or nothing; but the character must not stand alone. -/
def optionalCharWord? (c : Char) (s : List Char) : Parsed (List Char) :=
  if s.head? = some c then charWord? c s else some ([], s)

/-- The hour that a single space separates from a date. -/
def spacedHour (s : List Char) : List Char × List Char :=
  (charWord? ' ' s).getD ([], s)

/-- What belongs to a date or a time behind its first word; `colon` is its first colon where
that has been read already. -/
def momentTail? (colon : Bool) (s : List Char) : Option (List Char × List Char) :=
  let (hour, s) := spacedHour s
  if !colon && s.head? != some ':' then some (hour, s)
  else do
    let (m, s) ← if colon then word? s else charWord? ':' s
    let (sec, s) ← charWord? ':' s
    let (f, s) ← optionalCharWord? '.' s
    let (o, s) ← optionalCharWord? '+' s
    let (om, s) ← optionalCharWord? ':' s
    return (hour ++ m ++ sec ++ f ++ o ++ om, s)

/-- A date or a time whose first word is given. -/
def momentFrom? (w : List Char) (colon : Bool) (s : List Char) :
    Option (Value × List Char) := do
  let (tail, s) ← momentTail? colon s
  let t ← moment? (w ++ (if colon then [':'] else []) ++ tail)
  return (.text (String.ofList t), s)

/-- Whether a word reads as the beginning of a date. -/
def looksLikeDate (w : List Char) : Bool :=
  let has (a b : Char) := (w.zip (w.drop 1)).contains (a, b)
  w.contains 'T' || w.contains 't'
    || ((w.drop 1).contains '-' && !has 'e' '-' && !has 'E' '-')

/-- A number, a date or a time whose first word is given. -/
def numberOrMoment? (w rest : List Char) : Parsed Value :=
  if looksLikeDate w then momentFrom? w false rest
  else
    match rest with
    | ':' :: r => momentFrom? w true r
    | r => number? w r

/-- A value that is a word or begins with one. -/
def wordValue? (w rest : List Char) : Parsed Value :=
  if w = "true".toList then some (.bool true, rest)
  else if w = "false".toList then some (.bool false, rest)
  else if w = "inf".toList ∨ w = "nan".toList then numberOrMoment? w rest
  else
    match w with
    | c :: _ => if c = '-' ∨ Decimal.isDigit c then numberOrMoment? w rest else none
    | [] => none

end CertRotation.Document.Toml
