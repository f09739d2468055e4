/-
Documents in TOML: lists, inline tables, lines, and the tables that headers open.

A header names a table that no other header has named; what lies on the way to
it is made as needed, and a list of tables is entered at its last one.  No key is
given a value twice.
-/
import CertRotation.Document.Toml.Scalar

namespace CertRotation.Document.Toml

/-! ## Tables of one header -/

/-- What a key of a table stands for while the table is read: a value, or a table that dotted
keys may still extend. -/
inductive Item where
  | value (v : Value)
  | dotted (fields : List (String × Item))

/-- Adds a value under a dotted key.  Only tables made by dotted keys can be extended; a key
that occurs twice is found when the table is closed. -/
def addKey (fs : List (String × Item)) (v : Value) : List String → Option (List (String × Item))
  | [] => none
  | [k] => some (fs ++ [(k, .value v)])
  | k :: k' :: ks =>
    match fs.span (·.1 ≠ k) with
    | (before, (_, .dotted inner) :: after) =>
      (addKey inner v (k' :: ks)).map fun inner => before ++ (k, .dotted inner) :: after
    | (_, (_, .value _) :: _) => none
    | (_, []) => (addKey [] v (k' :: ks)).map fun inner => fs ++ [(k, .dotted inner)]

mutual

/-- The value of an item whose table is complete. -/
def closeItem : Item → Option Value
  | .value v => some v
  | .dotted fs => (close fs).map .table

/-- The fields of a complete table; `none` if a key occurs twice. -/
def close : List (String × Item) → Option Fields
  | [] => some []
  | (k, i) :: r =>
    match closeItem i, close r with
    | some v, some fs => if (fs.get? k).isSome then none else some ((k, v) :: fs)
    | _, _ => none

end

/-! ## Values and lines -/

/-- Skips white space, line ends and comments; a comment holds printable characters only. -/
def skipLines (inComment : Bool) : List Char → Option (List Char)
  | [] => some []
  | c :: r =>
    if c = '\n' then skipLines false r
    else if inComment then if isPrintable c then skipLines true r else none
    else if c = '#' then skipLines true r
    else if isBlank c then skipLines false r
    else some (c :: r)

/-- Skips a comment and the end of its line. -/
def endComment : List Char → Option (List Char)
  | [] => some []
  | c :: r => if c = '\n' then some r else if isPrintable c then endComment r else none

/-- Skips what may stand between a value and the end of its line. -/
def endLine (s : List Char) : Option (List Char) :=
  match skipBlanks s with
  | [] => some []
  | '\n' :: r => some r
  | '#' :: r => endComment r
  | _ => none

mutual

/-- Reads a value; `n` bounds the steps. -/
def value : Nat → List Char → Parsed Value
  | 0, _ => none
  | n + 1, s =>
    match s with
    | '[' :: r => (list n r).map fun (vs, r) => (.list vs, r)
    | '\x7b' :: r =>
      match skipBlanks r with
      | '\x7d' :: r => some (.table [], r)
      | r =>
        match inlineTable n [] r with
        | some (fs, r) => (close fs).map fun fs => (.table fs, r)
        | none => none
    | '+' :: r =>
      match word? r with
      | some (w, r) => number? w r
      | none => none
    | s =>
      match quoted? s with
      | some (q, r) => some (.text (String.ofList q.value), r)
      | none =>
        match word? s with
        | some (w, r) => wordValue? w r
        | none => none

/-- Reads the items of a list up to its closing bracket; a comma may follow the last. -/
def list : Nat → List Char → Parsed (List Value)
  | 0, _ => none
  | n + 1, s =>
    match skipLines false s with
    | none => none
    | some (']' :: r) => some ([], r)
    | some s =>
      match value n s with
      | none => none
      | some (v, r) =>
        match skipLines false r with
        | some (',' :: r) => (list n r).map fun (vs, r) => (v :: vs, r)
        | some (']' :: r) => some ([v], r)
        | _ => none

/-- Reads the fields of an inline table up to its closing brace. -/
def inlineTable : Nat → List (String × Item) → List Char → Parsed (List (String × Item))
  | 0, _, _ => none
  | n + 1, fs, s =>
    match key? s.length s with
    | some (ks, '=' :: r) =>
      match value n (skipBlanks r) with
      | none => none
      | some (v, r) =>
        match addKey fs v ks with
        | none => none
        | some fs =>
          match skipBlanks r with
          | '\x7d' :: r => some (fs, r)
          | ',' :: r => inlineTable n fs (skipBlanks r)
          | _ => none
    | _ => none

end

/-- A header with what its lines assign; `array` if it adds a table to a list. -/
structure Section where
  path : List String
  array : Bool
  fields : List (String × Item)

/-- Reads a header behind its first bracket. -/
def header? (s : List Char) : Parsed Section :=
  let (array, s) := match s with
    | '[' :: r => (true, r)
    | r => (false, r)
  match key? s.length s with
  | some (ks, ']' :: r) =>
    let closed := if array then char? ']' r else some r
    match closed.bind endLine with
    | some r => some (⟨ks, array, []⟩, r)
    | none => none
  | _ => none

/-- Reads the sections of a document, the one that has no header first; `n` bounds the lines. -/
def sections : Nat → Section → List Char → Option (List Section)
  | 0, _, _ => none
  | n + 1, current, s =>
    match skipLines false s with
    | none => none
    | some [] => some [current]
    | some ('[' :: r) =>
      match header? r with
      | some (next, r) => (sections n next r).map (current :: ·)
      | none => none
    | some s =>
      match key? s.length s with
      | some (ks, '=' :: r) =>
        match value (2 * s.length + 2) (skipBlanks r) with
        | none => none
        | some (v, r) =>
          match addKey current.fields v ks, endLine r with
          | some fs, some r => sections n { current with fields := fs } r
          | _, _ => none
      | _ => none

/-! ## The tree of sections -/

/-- A place in the tree: a value, a table, or a list of tables.  A table is `named` once a
header has named it. -/
inductive Node where
  | value (v : Value)
  | table (named : Bool) (fields : List (String × Node))
  | tables (items : List (List (String × Node)))

/-- Adds fields to others, all of them new. -/
def join (fs : Named Node) (new : Fields) : Option (Named Node) :=
  if new.any fun (k, _) => (fs.get? k).isSome then none
  else some (fs ++ new.map fun (k, v) => (k, .value v))

/-- The node that a header with its fields makes of what it names. -/
def define (array : Bool) (new : Fields) : Option Node → Option Node
  | none =>
    (join [] new).map fun fs => if array then .tables [fs] else .table true fs
  | some (.table false fs) => if array then none else (join fs new).map (.table true)
  | some (.tables items) =>
    if array then (join [] new).map fun fs => .tables (items ++ [fs]) else none
  | some (.table true _) | some (.value _) => none

/-- Puts a section into a tree. -/
def insert (array : Bool) (new : Fields) (fs : Named Node) :
    List String → Option (Named Node)
  | [] => join fs new
  | [k] => (define array new (fs.get? k)).map (fs.put k)
  | k :: ks =>
    match fs.get? k with
    | none => (insert array new [] ks).map fun inner => fs.put k (.table false inner)
    | some (.table named inner) =>
      (insert array new inner ks).map fun inner => fs.put k (.table named inner)
    | some (.tables items) =>
      match items.getLast? with
      | none => none
      | some last =>
        (insert array new last ks).map fun last => fs.put k (.tables (items.dropLast ++ [last]))
    | some (.value _) => none

mutual

/-- The value of a node. -/
def Node.toValue : Node → Value
  | .value v => v
  | .table _ fs => .table (fieldsOf fs)
  | .tables items => .list (itemsOf items)

def fieldsOf : List (String × Node) → Fields
  | [] => []
  | (k, x) :: r => (k, x.toValue) :: fieldsOf r

def itemsOf : List (List (String × Node)) → List Value
  | [] => []
  | fs :: r => .table (fieldsOf fs) :: itemsOf r

end

/-- The tree of some sections. -/
def tree? (ss : List Section) : Option (Named Node) :=
  ss.foldl (fun t s => t.bind fun t => (close s.fields).bind fun fs => insert s.array fs t s.path)
    (some [])

/-! ## Documents -/

/-- Makes each carriage return with a line feed a single line feed. -/
def joinLineEnds : List Char → List Char
  | '\r' :: '\n' :: r => '\n' :: joinLineEnds r
  | c :: r => c :: joinLineEnds r
  | [] => []

/-- Drops a byte order mark. -/
def dropMark : List Char → List Char
  | '\ufeff' :: r => r
  | r => r

/-- The document that a text spells; it is a table. -/
def parse? (s : List Char) : Option Value :=
  let s := joinLineEnds (dropMark s)
  match sections (s.length + 1) ⟨[], false, []⟩ s with
  | some ss => (tree? ss).map fun t => .table (fieldsOf t)
  | none => none

end CertRotation.Document.Toml
