/-
The scalars of YAML: plain, quoted, and blocks of lines.

Between the words of a scalar stands a gap.  A gap inside a line is kept; one
that spans lines becomes a space, or as many line feeds as there are empty lines.
-/
import CertRotation.Document.Yaml.Cursor

namespace CertRotation.Document.Yaml

open Text

/-! ## Gaps -/

/-- White space between two words: what stands in the line, whether a line ended, whether that
end counts, and the empty lines after it. -/
structure Gap where
  blanks : List Char := []
  folded : Bool := false
  counted : Bool := false
  emptyLines : Nat := 0

namespace Gap

/-- The text that a gap stands for. -/
def text (g : Gap) : List Char :=
  if g.folded then
    if g.counted ∧ g.emptyLines = 0 then [' '] else List.replicate g.emptyLines '\n'
  else g.blanks

/-- Adds a line break. -/
def addBreak (g : Gap) : Gap :=
  if g.folded then { g with emptyLines := g.emptyLines + 1 }
  else { blanks := [], folded := true, counted := true }

/-- Adds a blank; at the start of a line it says nothing. -/
def addBlank (g : Gap) (c : Char) : Gap :=
  if g.folded then g else { g with blanks := g.blanks ++ [c] }

/-- Reads a gap.  Where `margin` is given, no tab may stand left of it at the start of a line. -/
def read (margin : Option Int) : Nat → Gap → Cursor → Option (Gap × Cursor)
  | 0, g, c => some (g, c)
  | n + 1, g, c =>
    if isBlank c.peek then
      if g.folded && c.peek == '\t' && margin.any fun m => (c.col : Int) < m then none
      else read margin n (g.addBlank c.peek) c.skip
    else if isBreak c.peek then read margin n g.addBreak c.skipBreak
    else some (g, c)

end Gap

/-! ## Plain scalars -/

/-- The characters of a plain scalar up to the next gap or indicator. -/
def plainRun (inFlow : Bool) : List Char → List Char
  | [] => []
  | c :: r =>
    let next := r.head?.getD '\x00'
    if isGap c then []
    else if c = ':' ∧ (isGap next ∨ (inFlow ∧ isFlowChar next)) then []
    else if inFlow ∧ isFlowChar c then []
    else c :: plainRun inFlow r

/-- A scalar that was read, the place behind it, and whether a line ended after its last word. -/
structure PlainScalar where
  text : List Char
  cursor : Cursor
  lineEnded : Bool

/-- Reads a plain scalar whose lines begin at `margin` at least, except inside brackets. -/
def plainFrom (inFlow : Bool) (margin : Int) :
    Nat → List Char → Gap → Cursor → Option PlainScalar
  | 0, text, g, c => some ⟨text, c, g.folded⟩
  | n + 1, text, g, c =>
    if c.atDocumentMarker || c.peek == '#' then some ⟨text, c, g.folded⟩
    else
      let run := plainRun inFlow c.rest
      let (text, g) := if run.isEmpty then (text, g) else (text ++ g.text ++ run, {})
      let c := c.skipMany run.length
      if isBlank c.peek || isBreak c.peek then
        match Gap.read (some margin) c.rest.length g c with
        | none => none
        | some (g, c) =>
          if !inFlow && (c.col : Int) < margin then some ⟨text, c, g.folded⟩
          else plainFrom inFlow margin n text g c
      else some ⟨text, c, g.folded⟩

/-- Reads a plain scalar. -/
def plain? (inFlow : Bool) (margin : Int) (c : Cursor) : Option PlainScalar :=
  plainFrom inFlow margin (c.rest.length + 1) [] {} c

/-! ## Quoted scalars -/

/-- The character of a code point. -/
def codePoint? (n : Nat) : Option Char :=
  if h : n.isValidChar then some (Char.ofNatAux n h) else none

/-- The character that hexadecimal digits stand for. -/
def escaped? (ds : List Char) : Option Char :=
  (ds.foldl (fun n d => n.bind fun n => (Decimal.hexDigit? d).map (n * 16 + ·)) (some 0)).bind
    codePoint?

/-- The character that a single character after a backslash stands for. -/
def shortEscape? : Char → Option Char
  | '0' => some '\x00'
  | 'a' => some '\x07'
  | 'b' => some '\x08'
  | 't' => some '\t'
  | '\t' => some '\t'
  | 'n' => some '\n'
  | 'v' => some '\x0b'
  | 'f' => some '\x0c'
  | 'r' => some '\r'
  | 'e' => some '\x1b'
  | ' ' => some ' '
  | '"' => some '"'
  | '\'' => some '\''
  | '\\' => some '\\'
  | 'N' => some '\u0085'
  | '_' => some '\u00a0'
  | 'L' => some '\u2028'
  | 'P' => some '\u2029'
  | _ => none

/-- The characters up to the next gap, quote or escaped line end, and the text from there. -/
abbrev Run := Option (List Char × List Char)

/-- Puts an optional character in front of a run. -/
def consTo (c : Option Char) (r : Run) : Run :=
  c.bind fun c => r.map fun (cs, rest) => (c :: cs, rest)

/-- A run between single quotes; two of them stand for one. -/
def singleRun : List Char → Run
  | [] => some ([], [])
  | '\'' :: '\'' :: r => consTo (some '\'') (singleRun r)
  | c :: r =>
    if isGap c ∨ c = '\'' then some ([], c :: r) else consTo (some c) (singleRun r)

/-- A run between double quotes, with its escapes replaced. -/
def doubleRun : List Char → Run
  | [] => some ([], [])
  | '\\' :: 'x' :: a :: b :: r => consTo (escaped? [a, b]) (doubleRun r)
  | '\\' :: 'u' :: a :: b :: c :: d :: r => consTo (escaped? [a, b, c, d]) (doubleRun r)
  | '\\' :: 'U' :: a :: b :: c :: d :: e :: f :: g :: h :: r =>
    consTo (escaped? [a, b, c, d, e, f, g, h]) (doubleRun r)
  | '\\' :: e :: r =>
    if isBreak e then some ([], '\\' :: e :: r) else consTo (shortEscape? e) (doubleRun r)
  | c :: r =>
    if isGap c ∨ c = '"' then some ([], c :: r)
    else if c = '\\' then none
    else consTo (some c) (doubleRun r)

/-- Reads a quoted scalar up to its closing quote. -/
def quotedFrom (quote : Char) : Nat → List Char → Cursor → Option (List Char × Cursor)
  | 0, _, _ => none
  | n + 1, text, c =>
    if c.atDocumentMarker || isEnd c.peek then none
    else
      match if quote = '"' then doubleRun c.rest else singleRun c.rest with
      | none => none
      | some (run, rest) =>
        let text := text ++ run
        let c := c.skipMany (c.rest.length - rest.length)
        let escapedBreak := quote == '"' && c.peek == '\\'
        let (g, c) : Gap × Cursor :=
          if escapedBreak then ({ folded := true }, c.skip.skipBreak) else ({}, c)
        if c.peek = quote then some (text, c.skip)
        else
          match Gap.read none c.rest.length g c with
          | none => none
          | some (g, c) => quotedFrom quote n (text ++ g.text) c

/-- Reads a quoted scalar at its opening quote. -/
def quoted? (c : Cursor) : Option (List Char × Cursor) :=
  quotedFrom c.peek (c.rest.length + 1) [] c.skip

/-! ## Blocks of lines -/

/-- What becomes of the line ends at the end of a block. -/
inductive Chomping where
  | strip
  | clip
  | keep
deriving DecidableEq

def chomping? : Char → Option Chomping
  | '+' => some .keep
  | '-' => some .strip
  | _ => none

/-- How a block is to be read. -/
structure BlockHead where
  chomping : Chomping := .clip
  increment : Nat := 0

/-- An indentation digit, which may not be zero; zero where there is none. -/
def increment? (c : Cursor) : Option (Nat × Cursor) :=
  match Decimal.digit? c.peek with
  | none => some (0, c)
  | some 0 => none
  | some n => some (n, c.skip)

/-- Reads the indicators of a block, in either order, and the rest of its first line. -/
def blockHead? (c : Cursor) : Option (BlockHead × Cursor) :=
  let head : Option (BlockHead × Cursor) :=
    match chomping? c.peek with
    | some m => (increment? c.skip).map fun (n, c) => (⟨m, n⟩, c)
    | none =>
      (increment? c).map fun (n, c') =>
        match if n = 0 then none else chomping? c'.peek with
        | some m => (⟨m, n⟩, c'.skip)
        | none => (⟨.clip, n⟩, c')
  match head with
  | none => none
  | some (h, c) =>
    let c := (c.skipWhile isBlank).skipComment
    if isBreak c.peek then some (h, c.skipBreak)
    else if isEnd c.peek then some (h, c)
    else none

/-- Skips empty lines and the indentation of the next line: at most `indent` spaces, or all of
them as long as it is not known.  Gives back the widest indentation and the lines skipped. -/
def blockBreaks (indent : Nat) : Nat → Nat → Nat → Cursor → Option (Nat × Nat × Cursor)
  | 0, widest, lines, c => some (widest, lines, c)
  | n + 1, widest, lines, c =>
    let inMargin (col : Nat) : Bool := indent == 0 || col < indent
    if inMargin c.col && c.peek == ' ' then blockBreaks indent n widest lines c.skip
    else
      let widest := max widest c.col
      if inMargin c.col && c.peek == '\t' then none
      else if isBreak c.peek then blockBreaks indent n widest (lines + 1) c.skipBreak
      else some (widest, lines, c)

/-- What a block has gathered so far. -/
structure BlockState where
  text : List Char := []
  /-- The line before has ended. -/
  lineEnded : Bool := false
  emptyLines : Nat := 0
  /-- The line before began with white space. -/
  blankStart : Bool := false

namespace BlockState

/-- The text with the line ends before the next line: they are folded between two lines that
both begin with a word. -/
def beforeLine (literal : Bool) (s : BlockState) (blankStart : Bool) : List Char :=
  let ends : List Char :=
    if !literal && s.lineEnded && !s.blankStart && !blankStart then
      if s.emptyLines = 0 then [' '] else []
    else if s.lineEnded then ['\n'] else []
  s.text ++ ends ++ List.replicate s.emptyLines '\n'

/-- The text of a whole block. -/
def finish (m : Chomping) (s : BlockState) : List Char :=
  s.text ++ (if s.lineEnded ∧ m ≠ .strip then ['\n'] else [])
    ++ (if m = .keep then List.replicate s.emptyLines '\n' else [])

end BlockState

/-- Reads the lines of a block with a known indentation. -/
def blockLines (literal : Bool) (indent : Nat) :
    Nat → BlockState → Cursor → Option (BlockState × Cursor)
  | 0, s, c => some (s, c)
  | n + 1, s, c =>
    if c.col ≠ indent ∨ isEnd c.peek then some (s, c)
    else
      let blankStart := isBlank c.peek
      let (line, c) := c.span (!isBreakOrEnd ·)
      let text := s.beforeLine literal blankStart ++ line
      if isEnd c.peek then some ({ text, blankStart }, c)
      else
        match blockBreaks indent (c.rest.length + 1) 0 0 c.skipBreak with
        | none => none
        | some (_, emptyLines, c) =>
          blockLines literal indent n ⟨text, true, emptyLines, blankStart⟩ c

/-- Reads a block behind its indicator; `margin` is the indentation around it. -/
def block? (literal : Bool) (margin : Int) (c : Cursor) : Option (List Char × Cursor) :=
  match blockHead? c with
  | none => none
  | some (h, c) =>
    let known := if h.increment = 0 then 0 else (max margin 0).toNat + h.increment
    match blockBreaks known (c.rest.length + 1) 0 0 c with
    | none => none
    | some (widest, emptyLines, c) =>
      let indent := if known = 0 then max (max widest (margin + 1).toNat) 1 else known
      (blockLines literal indent (c.rest.length + 1) { emptyLines } c).map fun (s, c) =>
        (s.finish h.chomping, c)

end CertRotation.Document.Yaml
