/-
Quoted text: a string between double quotes on a single line.

Quotes and backslashes are written behind a backslash, and every character
without a glyph of its own is written by its number, so a quoted text holds no
control character and ends at its first bare quote.
-/
import CertRotation.Text.Printable
import CertRotation.Text.Decimal

namespace CertRotation.Text.Quoted

/-- A character by its number, in hexadecimal between braces. -/
def byNumber (c : Char) : List Char :=
  ['\\', 'u', '\x7b'] ++ Decimal.writeHex c.toNat ++ ['\x7d']

/-- What stands for one character between the quotes. -/
def escape (c : Char) : List Char :=
  if c = '\x00' then ['\\', '0']
  else if c = '\t' then ['\\', 't']
  else if c = '\r' then ['\\', 'r']
  else if c = '\n' then ['\\', 'n']
  else if c = '"' then ['\\', '"']
  else if c = '\\' then ['\\', '\\']
  else if isExtender c || !isPrintable c then byNumber c
  else [c]

/-- A text between double quotes. -/
def encode (s : List Char) : List Char :=
  '"' :: s.flatMap escape ++ ['"']

/-- What stands for one character of a path, where a single quote is escaped as well. -/
def escapeInPath (c : Char) : List Char :=
  if c = '\'' then ['\\', '\''] else escape c

/-- A path between double quotes. -/
def encodePath (s : List Char) : List Char :=
  '"' :: s.flatMap escapeInPath ++ ['"']

end CertRotation.Text.Quoted
