/-
What one side of a connection sends, and reading a line of it.

A stream is all that a reader gets to see: octets, and how they end.  A line is
complete with its line feed or with an orderly end; a connection that breaks off
before that yields no line, and one that goes on in silence none so far.
-/
import CertRotation.Error
import CertRotation.Text.Utf8

namespace CertRotation.Net

open Text

/-- How what one side sends comes to its end. -/
inductive Ending where
  /-- After an orderly close. -/
  | closed
  /-- Without one. -/
  | broken (cause : IoError)
  /-- Not at all, so far. -/
  | pending
deriving DecidableEq, Repr

/-- Octets and how they end. -/
structure Stream where
  octets : Bytes
  ending : Ending
deriving DecidableEq, Repr

/-- The octet that ends a line. -/
def lineFeed : UInt8 := 10

/-- The octets up to and including the first line feed, all of them where there is none. -/
def firstLine : Bytes → Bytes
  | [] => []
  | b :: r => if b = lineFeed then [b] else b :: firstLine r

/-- A connection that ends without being closed. -/
def cutOff : IoError :=
  .unexpectedEof "peer closed connection without sending TLS close_notify"

/-- Text that is none. -/
def notText : IoError :=
  .invalidData "stream did not contain valid UTF-8"

namespace Stream

/-- Only the first `n` octets; once they are there, the stream is at its end. -/
def truncate (n : Nat) (s : Stream) : Stream :=
  if n ≤ s.octets.length then ⟨s.octets.take n, .closed⟩ else s

/-- The first line; `none` as long as it can still grow. -/
def readLine (s : Stream) : Option (Except IoError Bytes) :=
  if lineFeed ∈ s.octets then some (.ok (firstLine s.octets))
  else
    match s.ending with
    | .closed => some (.ok s.octets)
    | .broken c => some (.error c)
    | .pending => none

/-- The first line as text. -/
def readText (s : Stream) : Option (Except IoError (List Char)) :=
  s.readLine.map fun line =>
    match line with
    | .error c => .error c
    | .ok b =>
      match Utf8.decode? b with
      | some t => .ok t
      | none => .error notText

end Stream

/-! ## Streams in time -/

/-- A value that comes after a number of nanoseconds. -/
structure Timed (α : Type) where
  after : Nat
  value : α
deriving DecidableEq, Repr

/-- One thing that reaches a reader. -/
inductive Arrival where
  | octets (data : Bytes)
  | closed
  | broken (cause : IoError)
deriving DecidableEq, Repr

/-- What has arrived up to a deadline; nothing comes after an end. -/
def Stream.upTo (deadline : Nat) : List (Timed Arrival) → Stream
  | [] => ⟨[], .pending⟩
  | a :: r =>
    if deadline < a.after then ⟨[], .pending⟩
    else
      match a.value with
      | .octets b => { upTo deadline r with octets := b ++ (upTo deadline r).octets }
      | .closed => ⟨[], .closed⟩
      | .broken c => ⟨[], .broken c⟩

/-- When the first line, or the end, has arrived. -/
def lineAt? : List (Timed Arrival) → Option Nat
  | [] => none
  | ⟨t, .octets b⟩ :: r => if lineFeed ∈ b then some t else lineAt? r
  | ⟨t, _⟩ :: _ => some t

/-- A stream that arrives without delay. -/
def Stream.arrivals (s : Stream) : List (Timed Arrival) :=
  ⟨0, .octets s.octets⟩ ::
    match s.ending with
    | .closed => [⟨0, .closed⟩]
    | .broken c => [⟨0, .broken c⟩]
    | .pending => []

end CertRotation.Net
