/-
A place in a text, and the classes of characters that YAML tells apart.

Lines and columns decide what belongs to a block, so a cursor counts both while
it moves.  Behind the end of the text stands the character zero.
-/
import CertRotation.Document.Value

namespace CertRotation.Document.Yaml

def isBreak (c : Char) : Bool := c == '\n' || c == '\r'
def isBlank (c : Char) : Bool := c == ' ' || c == '\t'
def isEnd (c : Char) : Bool := c == '\x00'

/-- The end of a line or of the text. -/
def isBreakOrEnd (c : Char) : Bool := isBreak c || isEnd c

/-- What may follow an indicator. -/
def isGap (c : Char) : Bool := isBlank c || isBreakOrEnd c

/-- A character of a name. -/
def isWordChar (c : Char) : Bool := c.isAlphanum || c == '_' || c == '-'

/-- An indicator inside brackets and braces. -/
def isFlowChar (c : Char) : Bool :=
  c == ',' || c == '[' || c == ']' || c == '\x7b' || c == '\x7d'

/-- The text from a place on, and where the place is. -/
structure Cursor where
  rest : List Char
  index : Nat := 0
  line : Nat := 0
  col : Nat := 0

namespace Cursor

/-- The character `n` places ahead. -/
def ahead (c : Cursor) (n : Nat) : Char := c.rest.getD n '\x00'

/-- The next character. -/
def peek (c : Cursor) : Char := c.ahead 0

/-- Moves over one character. -/
def skip (c : Cursor) : Cursor :=
  match c.rest with
  | [] => c
  | '\n' :: r => ⟨r, c.index + 1, c.line + 1, 0⟩
  | _ :: r => ⟨r, c.index + 1, c.line, c.col + 1⟩

/-- Moves over some characters. -/
def skipMany (c : Cursor) (n : Nat) : Cursor :=
  n.fold (fun _ _ c => c.skip) c

/-- The characters of a class that come next, and the place behind them. -/
def span (p : Char → Bool) (c : Cursor) : List Char × Cursor :=
  let cs := c.rest.takeWhile p
  (cs, c.skipMany cs.length)

/-- Moves over the characters of a class. -/
def skipWhile (p : Char → Bool) (c : Cursor) : Cursor := (c.span p).2

/-- Moves over a line break, of which a carriage return with a line feed is one. -/
def skipBreak (c : Cursor) : Cursor :=
  if c.peek = '\r' ∧ c.ahead 1 = '\n' then c.skipMany 2 else c.skip

/-- Moves to the end of the line if a comment comes next. -/
def skipComment (c : Cursor) : Cursor :=
  if c.peek = '#' then c.skipWhile (!isBreakOrEnd ·) else c

/-- Three equal characters and a gap at the start of a line. -/
def atMarker (c : Cursor) (m : Char) : Bool :=
  c.col == 0 && c.peek == m && c.ahead 1 == m && c.ahead 2 == m && isGap (c.ahead 3)

/-- The marker that starts or ends a document. -/
def atDocumentMarker (c : Cursor) : Bool := c.atMarker '-' || c.atMarker '.'

end Cursor
end CertRotation.Document.Yaml
