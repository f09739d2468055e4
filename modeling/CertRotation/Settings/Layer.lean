/-
Layers of settings: a file, and above it the variables of the environment.

A key names a place in the document by the fields and items on the way to it.
A layer puts its values in their places and leaves all else as it was, so each
setting is the one of the topmost layer that has it.
-/
import CertRotation.Document.Value
import CertRotation.Text.Blank

namespace CertRotation.Settings

open Text Document

/-! ## Places -/

/-- A step on the way to a place; an item may be counted from the end. -/
inductive Step where
  | field (name : String)
  | item (index : Int)
deriving DecidableEq, Repr

/-- A character of a field's name in a key. -/
def isNameChar (c : Char) : Bool :=
  c.isAlphanum || c == '_' || c == '-' || c == ' '

/-- Reads the name of a field. -/
def name? (s : List Char) : Option (String × List Char) :=
  let w := s.takeWhile isNameChar
  if w.isEmpty then none else some (String.ofList w, s.dropWhile isNameChar)

/-- The index that stands between brackets, blanks aside. -/
def index? (s : List Char) : Option Int :=
  let isBlank (c : Char) := c == ' ' || c == '\t'
  let s := ((s.dropWhile isBlank).reverse.dropWhile isBlank).reverse
  let (negative, ds) := match s with
    | '-' :: r => (true, r)
    | r => (false, r)
  (Decimal.digits? ds).bind fun n =>
    Document.int64? (if negative then -n else n)

/-- Reads the steps behind the first; `n` bounds their number. -/
def steps? : Nat → List Char → Option (List Step)
  | 0, _ => none
  | _ + 1, [] => some []
  | n + 1, '.' :: r =>
    match name? r with
    | some (k, r) => (steps? n r).map (.field k :: ·)
    | none => none
  | n + 1, '[' :: r =>
    match splitFirst ']' r with
    | some (i, r) => (index? i).bind fun i => (steps? n r).map (.item i :: ·)
    | none => none
  | _ + 1, _ => none

/-- The way to the place that a key names.  A key that is none names a field as it stands. -/
def wayOf (key : String) : List Step :=
  match name? key.toList with
  | some (k, r) =>
    match steps? (r.length + 1) r with
    | some ss => .field k :: ss
    | none => [.field key]
  | none => [.field key]

/-- The position that an index means in a list of some length. -/
def position? (length : Nat) (i : Int) : Option Nat :=
  if 0 ≤ i then some i.toNat
  else if -i ≤ length then some (length - (-i).toNat)
  else none

/-- A list with a new item at a position, filled up with nulls if it was too short. -/
def setItem (vs : List Value) (i : Nat) (f : Value → Value) : List Value :=
  let vs := vs ++ List.replicate (i + 1 - vs.length) .null
  vs.modify i f

/-- Puts a value in its place.  What is in the way and is neither table nor list gives way. -/
def place (v : Value) : List Step → Value → Value
  | [], _ => v
  | [.field k], under => .table (under.fields.put k (v.overlay (under.fields.get? k)))
  | .field k :: ss, under =>
    .table (under.fields.put k (place v ss ((under.fields.get? k).getD .null)))
  | .item i :: ss, under =>
    match position? under.items.length i with
    | some n => .list (setItem under.items n (place v ss))
    | none => .list under.items

/-! ## Layers -/

/-- Keys with their values. -/
abbrev Layer := List (String × Value)

/-- Lays a layer over a document. -/
def addLayer (under : Value) (l : Layer) : Value :=
  l.foldl (fun d (k, v) => place v (wayOf k) d) under

/-- The document of some layers, the lowest first. -/
def ofLayers (ls : List Layer) : Value :=
  ls.foldl addLayer (.table [])

/-- The layer of a document; one that is no table has no settings. -/
def layerOf (d : Value) : Layer := d.fields

/-! ## The environment -/

/-- Variables with their values. -/
abbrev Environment := List (String × String)

/-- What the variables of the program begin with, in lower case. -/
def variableStart : List Char := "hello_mtls_".toList

/-- The lower-case letter of a character; the sign of the kelvin is a letter too. -/
def toLower (c : Char) : Char :=
  if c = '\u212a' then 'k' else c.toLower

/-- Two underscores in a variable stand for a point in a key. -/
def pointed : List Char → List Char
  | '_' :: '_' :: r => '.' :: pointed r
  | c :: r => c :: pointed r
  | [] => []

/-- The key that a variable sets; the case of its letters does not matter. -/
def keyOfVariable? (name : String) : Option String :=
  let s := name.toList.map toLower
  if variableStart.isPrefixOf s then
    some (String.ofList (pointed (s.drop variableStart.length)))
  else none

/-- The layer of the environment. -/
def layerOfVariables (env : Environment) : Layer :=
  env.filterMap fun (n, v) => (keyOfVariable? n).map fun k => (k, .text v)

end CertRotation.Settings
