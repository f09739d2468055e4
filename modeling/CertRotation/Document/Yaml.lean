/-
Documents in YAML, made of tokens.

A stream holds at most one document.  An alias stands for what its anchor named
before; a tag other than those of the core types makes a plain scalar a text.
-/
import CertRotation.Document.Yaml.Token

namespace CertRotation.Document.Yaml

open Text

/-! ## Plain scalars and their types -/

/-- An integer of 64 bits with an optional sign, in some base. -/
def integer? (base : Nat) (s : List Char) : Option Int :=
  let (negative, ds) := Real64.sign s
  let digit (c : Char) : Option Nat := (Decimal.hexDigit? c).filter (· < base)
  let n : Option Nat :=
    if ds.isEmpty then none
    else ds.foldl (fun n d => n.bind fun n => (digit d).map (n * base + ·)) (some 0)
  let i : Option Int := n.map fun n => if negative then -(n : Int) else n
  i.bind int64?

/-- The integer that a plain scalar spells. -/
def plainInteger? (s : List Char) : Option Int :=
  let prefixed := match s with
    | '0' :: 'x' :: ds => integer? 16 ds
    | '0' :: 'o' :: ds => integer? 8 ds
    | '+' :: ds => integer? 10 ds
    | _ => none
  prefixed.or (integer? 10 s)

/-- Names of reals that no other format knows; a document that uses one is refused. -/
def isPointName (s : List Char) : Bool :=
  [".inf", ".Inf", ".INF", "+.inf", "+.Inf", "+.INF", "-.inf", "-.Inf", "-.INF", ".nan",
    ".NAN"].contains (String.ofList s)

/-- A real that is spelled as in other formats. -/
def real? (s : List Char) : Option Value :=
  (Real64.parse? s).map .real

/-- The value of a plain scalar without a tag. -/
def plainValue? (s : List Char) : Option Value :=
  if isPointName s then none
  else
    match plainInteger? s with
    | some i => some (.int i)
    | none =>
      if s = ['~'] ∨ s = "null".toList then some .null
      else if s = "true".toList then some (.bool true)
      else if s = "false".toList then some (.bool false)
      else some ((real? s).getD (.text (String.ofList s)))

/-- The value of a plain scalar with the tag of a core type; null where it does not fit. -/
def typedValue? (type : String) (s : List Char) : Option Value :=
  match type with
  | "bool" =>
    some (if s = "true".toList then .bool true
      else if s = "false".toList then .bool false else .null)
  | "int" => some (((integer? 10 s).map Value.int).getD .null)
  | "float" => if isPointName s then none else some ((real? s).getD .null)
  | "null" => some .null
  | _ => some (.text (String.ofList s))

/-- The value of a scalar; `none` if the document is to be refused. -/
def scalarValue? (tag : Option (String × String)) (plain : Bool) (s : String) : Option Value :=
  if !plain then some (.text s)
  else
    match tag with
    | none => plainValue? s.toList
    | some ("!!", type) => typedValue? type s.toList
    | some _ => some (.text s)

/-! ## Nodes -/

/-- The tokens that are left, and what the anchors before them name.  An anchor is known from
its token on, but names nothing before its node is complete. -/
structure Reader where
  tokens : List Token
  anchors : List (String × Nat) := []
  values : List (Nat × Value) := []
  next : Nat := 0

namespace Reader

def peek (r : Reader) : Token := r.tokens.headD .streamEnd

def skip (r : Reader) : Reader := { r with tokens := r.tokens.tail }

/-- Makes an anchor known. -/
def addAnchor (r : Reader) (name : String) : Nat × Reader :=
  (r.next, { r with anchors := (name, r.next) :: r.anchors, next := r.next + 1 })

/-- Lets an anchor name a value. -/
def setAnchor (r : Reader) (id : Option Nat) (v : Value) : Reader :=
  match id with
  | some id => { r with values := (id, v) :: r.values }
  | none => r

/-- What an alias stands for; `none` if there is no such anchor. -/
def alias? (r : Reader) (name : String) : Option Value :=
  (r.anchors.lookup name).map fun id => (r.values.lookup id).getD .null

end Reader

/-- Anchor and tag of a node, in either order. -/
structure Properties where
  anchor : Option Nat := none
  tag : Option (String × String) := none

namespace Properties

/-- Reads the properties that come next. -/
def read (r : Reader) : Properties × Reader :=
  match r.peek with
  | .anchor a =>
    let (id, r) := r.skip.addAnchor a
    match r.peek with
    | .tag h t => (⟨some id, some (h, t)⟩, r.skip)
    | _ => (⟨some id, none⟩, r)
  | .tag h t =>
    let r := r.skip
    match r.peek with
    | .anchor a =>
      let (id, r) := r.skip.addAnchor a
      (⟨some id, some (h, t)⟩, r)
    | _ => (⟨none, some (h, t)⟩, r)
  | _ => ({}, r)

/-- Whether there are any. -/
def present (p : Properties) : Bool := p.anchor.isSome || p.tag.isSome

end Properties

/-- A value that was read, and the reader behind it. -/
abbrev Read (α : Type) := Option (α × Reader)

/-- Gives a field to a mapping; only texts name fields. -/
def putField (fs : Fields) (k v : Value) : Fields :=
  match k with
  | .text k => fs.put k v
  | _ => fs

/-- Nothing stands where a token of one of these kinds comes next. -/
def absentBefore (ends : List Token) (r : Reader) : Bool := ends.contains r.peek

def blockEnds : List Token := [.key, .value, .blockEnd]
def flowMappingEnds : List Token := [.flowEntry, .flowMappingEnd]
def flowSequenceEnds : List Token := [.flowEntry, .flowSequenceEnd]

mutual

/-- Reads a node; `block` allows blocks, and `indentless` a sequence that is not indented. -/
def node : Nat → Bool → Bool → Reader → Read Value
  | 0, _, _, _ => none
  | n + 1, block, indentless, r =>
    match r.peek with
    | .alias a => (r.alias? a).map fun v => (v, r.skip)
    | _ =>
      let (p, r) := Properties.read r
      (content n block indentless p r).map fun (v, r) => (v, r.setAnchor p.anchor v)

/-- Reads what follows the properties of a node. -/
def content : Nat → Bool → Bool → Properties → Reader → Read Value
  | 0, _, _, _, _ => none
  | n + 1, block, indentless, p, r =>
    let list (vs : Read (List Value)) : Read Value := vs.map fun (vs, r) => (.list vs, r)
    let table (fs : Read Fields) : Read Value := fs.map fun (fs, r) => (.table fs, r)
    match r.peek, block with
    | .scalar plain s, _ => (scalarValue? p.tag plain s).map fun v => (v, r.skip)
    | .flowSequence, _ => list (flowSequence n true r.skip)
    | .flowMapping, _ => table (flowMapping n true [] r.skip)
    | .blockSequence, true => list (blockSequence n r.skip)
    | .blockMapping, true => table (blockMapping n [] r.skip)
    | t, _ =>
      if t = .blockEntry ∧ indentless then list (indentlessSequence n r)
      else if p.present then (scalarValue? p.tag true "").map fun v => (v, r)
      else none

/-- Reads the entries of an indented sequence. -/
def blockSequence : Nat → Reader → Read (List Value)
  | 0, _ => none
  | n + 1, r =>
    match r.peek with
    | .blockEnd => some ([], r.skip)
    | .blockEntry =>
      match optional n [.blockEntry, .blockEnd] true false r.skip with
      | some (v, r) => (blockSequence n r).map fun (vs, r) => (v :: vs, r)
      | none => none
    | _ => none

/-- Reads the entries of a sequence that is not indented. -/
def indentlessSequence : Nat → Reader → Read (List Value)
  | 0, _ => none
  | n + 1, r =>
    match r.peek with
    | .blockEntry =>
      match optional n (.blockEntry :: blockEnds) true false r.skip with
      | some (v, r) => (indentlessSequence n r).map fun (vs, r) => (v :: vs, r)
      | none => none
    | _ => some ([], r)

/-- Reads the entries of an indented mapping. -/
def blockMapping : Nat → Fields → Reader → Read Fields
  | 0, _, _ => none
  | n + 1, fs, r =>
    let entry (k : Read Value) : Read Fields :=
      match k with
      | none => none
      | some (k, r) =>
        match afterColon n blockEnds true r with
        | some (v, r) => blockMapping n (putField fs k v) r
        | none => none
    match r.peek with
    | .blockEnd => some (fs, r.skip)
    | .key => entry (optional n blockEnds true true r.skip)
    | .value => entry (some (.null, r))
    | _ => none

/-- Reads the items of a sequence in brackets; `first` if none was read. -/
def flowSequence : Nat → Bool → Reader → Read (List Value)
  | 0, _, _ => none
  | n + 1, first, r =>
    if r.peek = .flowSequenceEnd then some ([], r.skip)
    else if !first ∧ r.peek ≠ .flowEntry then none
    else
      let r := if first then r else r.skip
      match r.peek with
      | .flowSequenceEnd => some ([], r.skip)
      | .key =>
        match pairKey n r.skip with
        | none => none
        | some (k, r) =>
          match afterColon n flowSequenceEnds false r with
          | some (v, r) =>
            (flowSequence n false r).map fun (vs, r) => (.table (putField [] k v) :: vs, r)
          | none => none
      | _ =>
        match node n false false r with
        | some (v, r) => (flowSequence n false r).map fun (vs, r) => (v :: vs, r)
        | none => none

/-- Reads the entries of a mapping in braces; `first` if none was read. -/
def flowMapping : Nat → Bool → Fields → Reader → Read Fields
  | 0, _, _, _ => none
  | n + 1, first, fs, r =>
    let entry (k : Read Value) (colon : Bool) : Read Fields :=
      match k with
      | none => none
      | some (k, r) =>
        match if colon then afterColon n flowMappingEnds false r else some (.null, r) with
        | some (v, r) => flowMapping n false (putField fs k v) r
        | none => none
    if r.peek = .flowMappingEnd then some (fs, r.skip)
    else if !first ∧ r.peek ≠ .flowEntry then none
    else
      let r := if first then r else r.skip
      match r.peek with
      | .flowMappingEnd => some (fs, r.skip)
      | .key => entry (optional n (.value :: flowMappingEnds) false false r.skip) true
      | .value => entry (some (.null, r)) true
      | _ => entry (node n false false r) false

/-- Reads the key of a single pair in brackets.  Where it is missing, so is the token after it. -/
def pairKey : Nat → Reader → Read Value
  | 0, _ => none
  | n + 1, r =>
    if absentBefore (.value :: flowSequenceEnds) r then some (.null, r.skip)
    else node n false false r

/-- Reads the value behind a colon; null where either is missing. -/
def afterColon : Nat → List Token → Bool → Reader → Read Value
  | 0, _, _, _ => none
  | n + 1, ends, block, r =>
    if r.peek = .value then optional n ends block block r.skip else some (.null, r)

/-- Reads a node; null where one of the given tokens comes instead. -/
def optional : Nat → List Token → Bool → Bool → Reader → Read Value
  | 0, _, _, _, _ => none
  | n + 1, ends, block, indentless, r =>
    if absentBefore ends r then some (.null, r) else node n block indentless r

end

/-! ## Streams -/

def isDirective (t : Token) : Bool := t == .directive

/-- Reads the content of a document that a marker starts. -/
def explicitDocument (n : Nat) (r : Reader) : Read Value :=
  match r.tokens.dropWhile isDirective with
  | .documentStart :: ts =>
    optional n [.directive, .documentStart, .documentEnd, .streamEnd] true false
      { r with tokens := ts }
  | _ => none

/-- The single document of a stream; an empty table where there is none. -/
def ofTokens? (ts : List Token) : Option Value :=
  let n := 4 * ts.length + 4
  let r : Reader := { tokens := ts }
  if r.peek = .streamEnd then some (.table [])
  else
    let document :=
      if r.peek = .directive ∨ r.peek = .documentStart then explicitDocument n r
      else node n true false r
    match document with
    | some (v, r) =>
      if r.tokens.dropWhile (· == .documentEnd) = [.streamEnd] then some v else none
    | none => none

/-- The document that a text spells. -/
def parse? (s : List Char) : Option Value :=
  (tokens? s).bind fun ts => ofTokens? ts.toList

end CertRotation.Document.Yaml
