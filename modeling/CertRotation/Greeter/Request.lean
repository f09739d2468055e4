/-
What counts as a request to a greeter.

Of all that a client sends only the first line counts, and of a long line only the first 256
octets.  What counts is a request if it is text and its first word is a verb; nothing that comes
behind it is looked at.
-/
import CertRotation.Greeter

namespace CertRotation.Greeter

open Text Net

/-- What counts of the octets that a client sends: those of the first line, its line feed
included, as far as they are read. -/
def counted (sent : Bytes) : Bytes :=
  (firstLine sent).take maxRequest

/-- All that counts has come: a line feed, as many octets as are read, or the orderly end. -/
def IsWhole (sent : Stream) : Prop :=
  lineFeed ∈ sent.octets ∨ maxRequest ≤ sent.octets.length ∨ sent.ending = .closed

/-- Octets that ask for a greeting.  They are those of a text; white space at its end aside, what
stands before the first space is the verb, and what stands behind it is the name with white
space around it. -/
def Asks (octets : Bytes) (g : Greeting) (name : String) : Prop :=
  ∃ text, octets = Utf8.encode text ∧
    (trimEnd text).takeWhile (· ≠ ' ') = g.verb.toList ∧
    trim ((trimEnd text).dropWhile (· ≠ ' ')) = name.toList

/-- Octets of a name at most: the verb and the space take six of a request. -/
def maxName : Nat := maxRequest - 6

/-- What is taken of a name without a line feed: all of it if it fits, or else the characters that
its first octets make up, as many as fit; if they end inside a character, nothing is taken. -/
def Takes (name part : List Char) : Prop :=
  part <+: name ∧
    ((part = name ∧ (Utf8.encode name).length ≤ maxName) ∨ (Utf8.encode part).length = maxName)

end CertRotation.Greeter
