/-
The text format of Prometheus, read line by line.

A line is blank, a comment, or one sample: a name, labels in braces if there are
any, a value and perhaps a timestamp.  Blanks and tabs may stand between the
parts.  The reader is strict: where one line is none of these, or a label value
holds an escape that the format does not know, nothing is read at all.  Values
are read as whole numbers, since no gauge here holds anything else.
-/
import CertRotation.Metrics

namespace CertRotation.Metrics

open Text

/-- A sample line taken apart. -/
structure ReadSample where
  name : String
  labels : List (String × String)
  value : Int
  timestamp : Option Int := none
deriving DecidableEq, Repr

/-! ## Characters and names -/

/-- What may stand between the parts of a line. -/
def isGap (c : Char) : Bool :=
  c == ' ' || c == '\t'

def skip (s : List Char) : List Char :=
  s.dropWhile isGap

/-- What follows a character, gaps before it left out. -/
def after? (d : Char) (s : List Char) : Option (List Char) :=
  match skip s with
  | [] => none
  | c :: r => if c = d then some r else none

def isLabelStart (c : Char) : Bool :=
  c.isAlpha || c == '_'

def isLabelChar (c : Char) : Bool :=
  isLabelStart c || c.isDigit

def isMetricStart (c : Char) : Bool :=
  isLabelStart c || c == ':'

def isMetricChar (c : Char) : Bool :=
  isMetricStart c || c.isDigit

/-- Reads a name whose first character and further characters are of given kinds. -/
def readName? (start rest : Char → Bool) (s : List Char) : Option (List Char × List Char) :=
  match skip s with
  | [] => none
  | c :: r => if start c then some (c :: r.takeWhile rest, r.dropWhile rest) else none

/-! ## Labels -/

/-- The character that stands behind a backslash. -/
def unescape? (c : Char) : Option Char :=
  if c = '\\' then some '\\'
  else if c = '"' then some '"'
  else if c = 'n' then some '\n'
  else none

/-- Reads a label value up to its closing quote; `escaped` if a backslash stands before the text. -/
def readValue? (escaped : Bool) : List Char → Option (List Char × List Char)
  | [] => none
  | c :: r =>
    if escaped then
      match unescape? c with
      | none => none
      | some d => (readValue? false r).map fun (v, r) => (d :: v, r)
    else if c = '\\' then readValue? true r
    else if c = '"' then some ([], r)
    else (readValue? false r).map fun (v, r) => (c :: v, r)

/-- Reads a label: a name and a quoted value. -/
def readLabel? (s : List Char) : Option ((String × String) × List Char) :=
  match readName? isLabelStart isLabelChar s with
  | none => none
  | some (name, r) =>
    match (after? '=' r).bind (after? '"') with
    | none => none
    | some r => (readValue? false r).map fun (v, r) => ((String.ofList name, String.ofList v), r)

/-- Reads labels up to the closing brace, at most `n` of them; a comma may stand behind the last. -/
def readLabels? : Nat → List Char → Option (List (String × String) × List Char)
  | 0, _ => none
  | n + 1, s =>
    match after? '\x7d' s with
    | some r => some ([], r)
    | none =>
      match readLabel? s with
      | none => none
      | some (l, r) =>
        match after? ',' r with
        | some r => (readLabels? n r).map fun (ls, r) => (l :: ls, r)
        | none => (after? '\x7d' r).map fun r => ([l], r)

/-! ## Lines -/

/-- Reads a whole number up to the next gap. -/
def readNumber? (s : List Char) : Option (Int × List Char) :=
  let s := skip s
  (Decimal.int? (s.takeWhile fun c => !isGap c)).map (·, s.dropWhile fun c => !isGap c)

/-- Reads the end of a line: a value, and a timestamp if more follows. -/
def readEnd? (s : List Char) : Option (Int × Option Int) :=
  match readNumber? s with
  | none => none
  | some (v, r) =>
    if (skip r).isEmpty then some (v, none)
    else
      match readNumber? r with
      | none => none
      | some (t, r) => if (skip r).isEmpty then some (v, some t) else none

/-- Reads the labels in braces, if there are braces. -/
def readBraces? (s : List Char) : Option (List (String × String) × List Char) :=
  match after? '\x7b' s with
  | none => some ([], s)
  -- Every label takes up characters, so there are no more of them than characters.
  | some r => readLabels? s.length r

def readSample? (line : List Char) : Option ReadSample :=
  match readName? isMetricStart isMetricChar line with
  | none => none
  | some (name, r) =>
    match readBraces? r with
    | none => none
    | some (labels, r) => (readEnd? r).map fun (v, t) => ⟨String.ofList name, labels, v, t⟩

/-- A line that is blank or a comment. -/
def isRemark (line : List Char) : Bool :=
  (skip line).head?.all (· == '#')

def readLines? : List (List Char) → Option (List ReadSample)
  | [] => some []
  | line :: lines =>
    if isRemark line then readLines? lines
    else
      match readSample? line with
      | none => none
      | some s => (readLines? lines).map (s :: ·)

/-- All samples of a body. -/
def readBody? (body : String) : Option (List ReadSample) :=
  readLines? (splitAll '\n' body.toList)

end CertRotation.Metrics
