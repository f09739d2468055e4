/-
Quoted text, read back.

A text ends at the first quote that no backslash announces.  A backslash stands before a quote, another
backslash, the letter of a control character, or a number in braces; all else stands for itself.
-/
import CertRotation.Text.Quoted

namespace CertRotation.Text.Quoted

/-- The character that is meant by one behind a backslash. -/
def unescape? (c : Char) : Option Char :=
  if c = '0' then some '\x00'
  else if c = 't' then some '\t'
  else if c = 'r' then some '\r'
  else if c = 'n' then some '\n'
  else if c = '"' then some '"'
  else if c = '\\' then some '\\'
  else none

/-- What of a character has been read before the rest of a text. -/
inductive Begun where
  | nothing
  /-- A backslash. -/
  | backslash
  /-- A backslash and the letter that announces a number. -/
  | mark
  /-- The opening brace and digits that come to a number. -/
  | digits (n : Nat)

/-- Reads up to the closing quote: the text, and what comes behind the quote. -/
def readOn? : Begun → List Char → Option (List Char × List Char)
  | _, [] => none
  | .nothing, c :: r =>
    if c = '"' then some ([], r)
    else if c = '\\' then readOn? .backslash r
    else (readOn? .nothing r).map fun (s, r) => (c :: s, r)
  | .backslash, c :: r =>
    if c = 'u' then readOn? .mark r
    else
      match unescape? c with
      | some d => (readOn? .nothing r).map fun (s, r) => (d :: s, r)
      | none => none
  | .mark, c :: r => if c = '\x7b' then readOn? (.digits 0) r else none
  | .digits n, c :: r =>
    if c = '\x7d' then (readOn? .nothing r).map fun (s, r) => (Char.ofNat n :: s, r)
    else
      match Decimal.hexDigit? c with
      | some d => readOn? (.digits (n * 16 + d)) r
      | none => none

/-- Reads a quoted text in front of others. -/
def read? : List Char → Option (List Char × List Char)
  | [] => none
  | c :: r => if c = '"' then readOn? .nothing r else none

end CertRotation.Text.Quoted
