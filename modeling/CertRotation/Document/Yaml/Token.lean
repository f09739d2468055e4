/-
The tokens of a YAML text.

Indentation becomes tokens of its own.  Whether something is a key shows only
at the colon behind it, so the scanner remembers, for each level of brackets,
where a key may have begun, and puts the key's token there afterwards.
-/
import CertRotation.Document.Yaml.Scalar

namespace CertRotation.Document.Yaml

open Text

/-- A token. -/
inductive Token where
  | directive
  | documentStart
  | documentEnd
  | streamEnd
  | blockSequence
  | blockMapping
  | blockEnd
  | flowSequence
  | flowSequenceEnd
  | flowMapping
  | flowMappingEnd
  | blockEntry
  | flowEntry
  | key
  | value
  | alias (name : String)
  | anchor (name : String)
  | tag (handle suffix : String)
  | scalar (plain : Bool) (text : String)
deriving DecidableEq, Repr

/-- A place where a key may have begun: the number of the token there, and whether nothing but
a key may stand there. -/
structure KeyMark where
  token : Nat
  index : Nat
  line : Nat
  col : Nat
  required : Bool

/-- What is left of a text, and the tokens of what came before. -/
structure Scanner where
  cursor : Cursor
  tokens : Array Token := #[]
  /-- A key may begin here. -/
  keyAllowed : Bool := true
  /-- Where a key may have begun, for the innermost level of brackets first. -/
  keys : List (Option KeyMark) := [none]
  /-- The column of the innermost block, and those around it. -/
  indent : Int := -1
  indents : List Int := []
  /-- Levels of brackets. -/
  flow : Nat := 0
  /-- Where a colon may follow a quoted key without a gap. -/
  adjacentAt : Option Nat := none

namespace Scanner

def push (s : Scanner) (t : Token) : Scanner :=
  { s with tokens := s.tokens.push t }

/-- Puts a token before the token of that number. -/
def insertAt (s : Scanner) (i : Nat) (t : Token) : Scanner :=
  { s with tokens := s.tokens.insertIdxIfInBounds i t }

def allowKey (s : Scanner) (b : Bool) : Scanner :=
  { s with keyAllowed := b }

def moveTo (s : Scanner) (c : Cursor) : Scanner :=
  { s with cursor := c }

/-- Moves over an indicator, which is a token. -/
def take (s : Scanner) (t : Token) : Scanner :=
  (s.moveTo s.cursor.skip).push t

/-! ## Indentation -/

/-- Opens a block at a column that is further right; its token goes before a given one. -/
def openBlock (s : Scanner) (col : Nat) (before : Option Nat) (t : Token) : Scanner :=
  if 0 < s.flow ∨ (col : Int) ≤ s.indent then s
  else
    let s := { s with indents := s.indent :: s.indents, indent := col }
    match before with
    | some i => s.insertAt i t
    | none => s.push t

/-- Leaves the blocks that are further right than a column. -/
def closeFrom (col : Int) : List Int → Int → Array Token → List Int × Int × Array Token
  | [], indent, ts => ([], indent, ts)
  | outer :: r, indent, ts =>
    if col < indent then closeFrom col r outer (ts.push .blockEnd) else (outer :: r, indent, ts)

/-- Closes the blocks that are further right than a column; brackets have no blocks. -/
def closeBlocks (s : Scanner) (col : Int) : Scanner :=
  if 0 < s.flow then s
  else
    let (indents, indent, tokens) := closeFrom col s.indents s.indent s.tokens
    { s with indents, indent, tokens }

/-! ## Keys -/

/-- Characters that a key may span at most, its line being the other limit. -/
def maxKey : Nat := 1024

/-- Forgets a place that is out of reach; `none` if a key had to be there. -/
def refresh (c : Cursor) (k : Option KeyMark) : Option (Option KeyMark) :=
  match k with
  | none => some none
  | some k =>
    if k.line < c.line ∨ k.index + maxKey < c.index then
      if k.required then none else some none
    else some (some k)

/-- Forgets the places that are out of reach. -/
def refreshKeys (s : Scanner) : Option Scanner :=
  (s.keys.mapM (refresh s.cursor)).map fun keys => { s with keys }

/-- Forgets the place of the innermost level; `none` if a key had to be there. -/
def dropKey (s : Scanner) : Option Scanner :=
  match s.keys with
  | [] => some s
  | k :: r => if k.any (·.required) then none else some { s with keys := none :: r }

/-- Remembers that a key may begin here. -/
def markKey (s : Scanner) : Option Scanner :=
  if !s.keyAllowed then some s
  else
    s.dropKey.map fun s =>
      let c := s.cursor
      let mark : KeyMark :=
        ⟨s.tokens.size, c.index, c.line, c.col, 0 < s.flow && s.indent == (c.col : Int)⟩
      { s with keys := some mark :: s.keys.tail }

/-! ## White space -/

/-- Skips white space, comments and line ends; outside brackets a new line may begin a key, and
a tab may not indent it. -/
def skipGap : Nat → Scanner → Scanner
  | 0, s => s
  | n + 1, s =>
    let c := s.cursor
    if c.peek = ' ' ∨ (c.peek = '\t' ∧ (0 < s.flow ∨ !s.keyAllowed)) then
      skipGap n (s.moveTo c.skip)
    else if isBreak c.peek then
      skipGap n ((s.moveTo c.skipBreak).allowKey (s.keyAllowed || s.flow == 0))
    else if c.peek = '#' then skipGap n (s.moveTo c.skipComment)
    else s

/-! ## Directives and document markers -/

/-- Reads a number of at most nine digits. -/
def versionNumber? (c : Cursor) : Option Cursor :=
  let (ds, c) := c.span Decimal.isDigit
  if ds.isEmpty ∨ 9 < ds.length then none else some c

/-- Reads a handle: an exclamation mark, and perhaps a word and a second mark. -/
def handle? (inDirective : Bool) (c : Cursor) : Option (List Char × Cursor) :=
  if c.peek ≠ '!' then none
  else
    let (w, c) := c.skip.span isWordChar
    if c.peek = '!' then some ('!' :: w ++ ['!'], c.skip)
    else if inDirective ∧ !w.isEmpty then none
    else some ('!' :: w, c)

/-- A character of a tag that stands for itself. -/
def isTagChar (c : Char) : Bool :=
  isWordChar c || ";/?:@&=+$,.!~*'()[]".toList.contains c

/-- The number of octets that a character takes whose first octet is given. -/
def tagWidth? (b : Nat) : Option Nat :=
  if b < 0x80 then some 1
  else if 0xC0 ≤ b ∧ b < 0xE0 then some 2
  else if 0xE0 ≤ b ∧ b < 0xF0 then some 3
  else if 0xF0 ≤ b ∧ b < 0xF8 then some 4
  else none

/-- The octet that a percent sign and two digits stand for. -/
def escapedOctet? (c : Cursor) : Option Nat :=
  match Decimal.hexDigit? (c.ahead 1), Decimal.hexDigit? (c.ahead 2) with
  | some a, some b => if c.peek = '%' then some (a * 16 + b) else none
  | _, _ => none

/-- Reads the octets that follow the first of an escaped character. -/
def escapedTail? : Nat → Nat → Cursor → Option (Nat × Cursor)
  | 0, code, c => some (code, c)
  | n + 1, code, c =>
    match escapedOctet? c with
    | some b => if b / 64 = 2 then escapedTail? n (code * 256 + b) (c.skipMany 3) else none
    | none => none

/-- Reads an escaped character of a tag. -/
def escapedChar? (c : Cursor) : Option (Char × Cursor) :=
  match escapedOctet? c with
  | none => none
  | some b =>
    match tagWidth? b with
    | none => none
    | some w =>
      match escapedTail? (w - 1) b (c.skipMany 3) with
      | some (code, c) => (codePoint? code).map fun x => (x, c)
      | none => none

/-- Reads the characters of a tag, escapes replaced. -/
def tagChars? : Nat → List Char → Cursor → Option (List Char × Cursor)
  | 0, t, c => some (t, c)
  | n + 1, t, c =>
    if c.peek = '%' then
      match escapedChar? c with
      | some (x, c) => tagChars? n (t ++ [x]) c
      | none => none
    else if isTagChar c.peek then tagChars? n (t ++ [c.peek]) c.skip
    else some (t, c)

/-- Reads a tag behind a head whose first character is no part of it; one of the two must have
characters. -/
def tagUri? (head : List Char) (c : Cursor) : Option (List Char × Cursor) :=
  match tagChars? (c.rest.length + 1) (head.drop 1) c with
  | some (t, c) => if head.isEmpty ∧ t.isEmpty then none else some (t, c)
  | none => none

/-- Reads what a directive says behind its name. -/
def directiveBody? (name : List Char) (c : Cursor) : Option Cursor :=
  if name = "YAML".toList then
    match versionNumber? (c.skipWhile isBlank) with
    | some c => if c.peek = '.' then versionNumber? c.skip else none
    | none => none
  else if name = "TAG".toList then
    match handle? true (c.skipWhile isBlank) with
    | none => none
    | some (_, c) =>
      match tagUri? [] (c.skipWhile isBlank) with
      | some (_, c) => if isGap c.peek then some c else none
      | none => none
  else some (c.skipWhile (!isBreakOrEnd ·))

/-- Reads a directive up to the end of its line. -/
def directive? (c : Cursor) : Option Cursor :=
  let (name, c) := c.skip.span isWordChar
  if name.isEmpty ∨ !isGap c.peek then none
  else
    match directiveBody? name c with
    | none => none
    | some c =>
      let c := (c.skipWhile isBlank).skipComment
      if isBreak c.peek then some c.skipBreak
      else if isEnd c.peek then some c
      else none

/-- A directive or a document marker, which end all blocks. -/
def endBlocks (s : Scanner) : Option Scanner :=
  (s.closeBlocks (-1)).dropKey.map (·.allowKey false)

/-! ## Tags, anchors and aliases -/

/-- Reads a tag at its exclamation mark. -/
def tag? (c : Cursor) : Option (Token × Cursor) :=
  let tag (handle suffix : List Char) : Token :=
    .tag (String.ofList handle) (String.ofList suffix)
  let read : Option (Token × Cursor) :=
    if c.ahead 1 = '<' then
      match tagUri? [] (c.skipMany 2) with
      | some (t, c) => if c.peek = '>' then some (tag [] t, c.skip) else none
      | none => none
    else
      match handle? false c with
      | none => none
      | some (h, c) =>
        if 2 ≤ h.length ∧ h.getLast? = some '!' then
          (tagUri? [] c).map fun (t, c) => (tag h t, c)
        else
          (tagUri? h c).map fun (t, c) =>
            (if t.isEmpty then tag [] ['!'] else tag ['!'] t, c)
  match read with
  | some (t, c) => if isGap c.peek then some (t, c) else none
  | none => none

/-- What may follow the name of an anchor or alias. -/
def endsName (c : Char) : Bool :=
  isGap c || "?:,]\x7d%@\x60".toList.contains c

/-- Reads the name of an anchor or alias behind its indicator. -/
def name? (c : Cursor) : Option (String × Cursor) :=
  let (w, c) := c.skip.span isWordChar
  if w.isEmpty ∨ !endsName c.peek then none else some (String.ofList w, c)

/-! ## One token -/

/-- Something that may begin a key: it is marked, and a key may not follow it at once. -/
def keyLike (s : Scanner) (read : Cursor → Option (Token × Cursor)) : Option Scanner :=
  match s.markKey with
  | none => none
  | some s =>
    (read s.cursor).map fun (t, c) => ((s.allowKey false).moveTo c).push t

def openFlow (s : Scanner) (t : Token) : Option Scanner :=
  s.markKey.bind fun s =>
    if 255 ≤ s.flow then none
    else some ({ s with keys := none :: s.keys, flow := s.flow + 1, keyAllowed := true }.take t)

def closeFlow (s : Scanner) (t : Token) : Option Scanner :=
  s.dropKey.map fun s =>
    let s := if 0 < s.flow then { s with flow := s.flow - 1, keys := s.keys.tail } else s
    (s.allowKey false).take t

def flowEntry (s : Scanner) : Option Scanner :=
  s.dropKey.map fun s => (s.allowKey true).take .flowEntry

def blockEntry (s : Scanner) : Option Scanner :=
  if 0 < s.flow ∨ !s.keyAllowed then none
  else
    (s.openBlock s.cursor.col none .blockSequence).dropKey.map fun s =>
      (s.allowKey true).take .blockEntry

/-- The indicator of a key that is more than one line or word. -/
def explicitKey (s : Scanner) : Option Scanner :=
  if s.flow = 0 ∧ !s.keyAllowed then none
  else
    (s.openBlock s.cursor.col none .blockMapping).dropKey.map fun s =>
      (s.allowKey (s.flow == 0)).take .key

/-- The colon behind a key: the key's token goes where the key began. -/
def valueMark (s : Scanner) : Option Scanner :=
  match s.keys with
  | some k :: r =>
    let s := (s.insertAt k.token .key).openBlock k.col (some k.token) .blockMapping
    some (({ s with keys := none :: r, keyAllowed := false }).take .value)
  | _ =>
    if s.flow = 0 ∧ !s.keyAllowed then none
    else
      some (((s.openBlock s.cursor.col none .blockMapping).allowKey (s.flow == 0)).take .value)

def blockScalar (s : Scanner) (literal : Bool) : Option Scanner :=
  s.markKey.bind fun s =>
    (block? literal s.indent s.cursor.skip).map fun (t, c) =>
      ((s.allowKey true).moveTo c).push (.scalar false (String.ofList t))

def quotedScalar (s : Scanner) : Option Scanner :=
  (s.keyLike fun c => (quoted? c).map fun (t, c) => (.scalar false (String.ofList t), c)).map
    fun s => { s with adjacentAt := some s.cursor.index }

def plainScalar (s : Scanner) : Option Scanner :=
  s.markKey.bind fun s =>
    (plain? (0 < s.flow) (s.indent + 1) s.cursor).map fun p =>
      ((s.allowKey p.lineEnded).moveTo p.cursor).push (.scalar true (String.ofList p.text))

/-- The next token of the text, at its first character. -/
def token (s : Scanner) : Option Scanner :=
  let c := s.cursor
  let next := c.ahead 1
  if c.col = 0 ∧ c.peek = '%' then
    s.endBlocks.bind fun s => (directive? s.cursor).map fun c => (s.moveTo c).push .directive
  else if c.atMarker '-' then
    s.endBlocks.map fun s => (s.moveTo (c.skipMany 3)).push .documentStart
  else if c.atMarker '.' then
    s.endBlocks.map fun s => (s.moveTo (c.skipMany 3)).push .documentEnd
  else
    match c.peek with
    | '[' => s.openFlow .flowSequence
    | '\x7b' => s.openFlow .flowMapping
    | ']' => s.closeFlow .flowSequenceEnd
    | '\x7d' => s.closeFlow .flowMappingEnd
    | ',' => s.flowEntry
    | '*' => s.keyLike fun c => (name? c).map fun (n, c) => (.alias n, c)
    | '&' => s.keyLike fun c => (name? c).map fun (n, c) => (.anchor n, c)
    | '!' => s.keyLike tag?
    | '\'' | '"' => s.quotedScalar
    | '%' | '@' | '\x60' => none
    | '-' => if isGap next then s.blockEntry else s.plainScalar
    | '?' => if isGap next then s.explicitKey else s.plainScalar
    | ':' =>
      let inFlow := 0 < s.flow && (isFlowChar next || s.adjacentAt == some c.index)
      if isGap next || inFlow then s.valueMark else s.plainScalar
    | '|' => if s.flow = 0 then s.blockScalar true else s.plainScalar
    | '>' => if s.flow = 0 then s.blockScalar false else s.plainScalar
    | _ => s.plainScalar

/-- Scans the text to its end; `n` bounds the number of tokens. -/
def run : Nat → Scanner → Option (Array Token)
  | 0, _ => none
  | n + 1, s =>
    match (s.skipGap (s.cursor.rest.length + 1)).refreshKeys with
    | none => none
    | some s =>
      let s := s.closeBlocks s.cursor.col
      if isEnd s.cursor.peek then s.endBlocks.map fun s => s.tokens.push .streamEnd
      else
        match s.token with
        | some s => run n s
        | none => none

end Scanner

/-- The tokens of a text, which ends at a character zero. -/
def tokens? (s : List Char) : Option (Array Token) :=
  let s := s.takeWhile (!isEnd ·)
  Scanner.run (s.length + 2) { cursor := { rest := s } }

end CertRotation.Document.Yaml
