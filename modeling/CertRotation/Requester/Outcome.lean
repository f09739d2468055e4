/-
What a request can come to.

A connection is opened in two phases, and a reply comes in piece by piece.  `Outcome` has one
constructor for each way in which a request can end, with what the other side did to end it so; a
request ends in one way and no other.
-/
import CertRotation.Requester

namespace CertRotation.Requester

open Text Net

/-! ## Opening a connection -/

/-- How a connection is opened: each phase with the time that it takes, `none` for one that never
ends. -/
structure Dialling where
  connecting : Option (Timed (Except IoError Unit))
  /-- The handshake on an open connection, as the client's side sees it end. -/
  shaking : Option (Timed (Except String Unit))

namespace Dialling

/-- What both phases come to. -/
def opening (d : Dialling) : Option (Timed Opening) :=
  match d.connecting with
  | none => none
  | some ⟨t, .error c⟩ => some ⟨t, .refused c⟩
  | some ⟨t, .ok ()⟩ =>
    d.shaking.map fun s =>
      ⟨t + s.after, match s.value with | .error f => .rejected f | .ok () => .ready⟩

/-- The peer that is dialled: how sending to it fails, if it does, and what it replies. -/
def peer (d : Dialling) (refusal : Option IoError) (reply : Bytes → List (Timed Arrival)) : Peer :=
  { opening := d.opening, refusal, reply }

/-- The connection is open and its handshake is done in time. -/
def ReadyBy (d : Dialling) (limit : Nat) : Prop :=
  ∃ t u, d.connecting = some ⟨t, .ok ()⟩ ∧ d.shaking = some ⟨u, .ok ()⟩ ∧ t + u ≤ limit

/-- Both phases together come to an end in time, a good one or not. -/
def EndsBy (d : Dialling) (limit : Nat) : Prop :=
  (∃ t c, d.connecting = some ⟨t, .error c⟩ ∧ t ≤ limit) ∨
    ∃ t s, d.connecting = some ⟨t, .ok ()⟩ ∧ d.shaking = some s ∧ t + s.after ≤ limit

end Dialling

/-! ## Receiving a reply -/

/-- What comes in of a reply. -/
inductive Reception where
  /-- The octets up to the first line feed and with it, or up to an orderly close. -/
  | line (octets : Bytes)
  | broken (cause : IoError)
  | silence

/-- Octets that come in piece by piece. -/
def pieces (ps : List (Timed Bytes)) : List (Timed Arrival) :=
  ps.map fun p => ⟨p.after, .octets p.value⟩

/-- All octets of the pieces. -/
def joined (ps : List (Timed Bytes)) : Bytes :=
  ps.flatMap (·.value)

/-- Pieces of a line that is not complete with them, in time. -/
structure Unfinished (limit : Nat) (ps : List (Timed Bytes)) : Prop where
  inTime : ∀ p ∈ ps, p.after ≤ limit
  noFeed : lineFeed ∉ joined ps

/-- How a reply comes in within a time limit.  What follows a line feed or an end is of no account. -/
inductive Receives (limit : Nat) : List (Timed Arrival) → Reception → Prop
  | feed {ps : List (Timed Bytes)} {t : Nat} {x : Bytes} (y : Bytes) (later : List (Timed Arrival)) :
      Unfinished limit ps → t ≤ limit → lineFeed ∉ x →
      Receives limit (pieces ps ++ ⟨t, .octets (x ++ lineFeed :: y)⟩ :: later)
        (.line (joined ps ++ x ++ [lineFeed]))
  | closed {ps : List (Timed Bytes)} {t : Nat} (later : List (Timed Arrival)) :
      Unfinished limit ps → t ≤ limit →
      Receives limit (pieces ps ++ ⟨t, .closed⟩ :: later) (.line (joined ps))
  | broken {ps : List (Timed Bytes)} {t : Nat} (c : IoError) (later : List (Timed Arrival)) :
      Unfinished limit ps → t ≤ limit →
      Receives limit (pieces ps ++ ⟨t, .broken c⟩ :: later) (.broken c)
  | silence {ps : List (Timed Bytes)} {later : List (Timed Arrival)} :
      Unfinished limit ps → (∀ a ∈ later.head?, limit < a.after) →
      Receives limit (pieces ps ++ later) .silence

/-! ## Outcomes -/

section
variable (r : Requester) (g : Greeting) (d : Dialling) (refusal : Option IoError)
  (reply : Bytes → List (Timed Arrival))

/-- The request line is on its way in time. -/
def Sent : Prop :=
  d.ReadyBy r.timeout.nanos ∧ refusal = none

/-- The outcomes of a request, each with what brings it about. -/
inductive Outcome : Except Failure String → Prop
  | unconnected {t : Nat} {c : IoError} : d.connecting = some ⟨t, .error c⟩ → t ≤ r.timeout.nanos →
      Outcome (.error (.io c))
  | unshaken {t u : Nat} {f : String} : d.connecting = some ⟨t, .ok ()⟩ →
      d.shaking = some ⟨u, .error f⟩ → t + u ≤ r.timeout.nanos → Outcome (.error (.handshake f))
  | late : ¬ d.EndsBy r.timeout.nanos → Outcome (.error .timeout)
  | unsent {c : IoError} : d.ReadyBy r.timeout.nanos → refusal = some c → Outcome (.error (.io c))
  | text {s : List Char} : Sent r d refusal →
      Receives r.timeout.nanos (reply (r.line g)) (.line (Utf8.encode s)) → s ≠ [] →
      Outcome (.ok (String.ofList (trimEnd s)))
  | nothing : Sent r d refusal → Receives r.timeout.nanos (reply (r.line g)) (.line []) →
      Outcome (.error (.io (.unexpectedEof "connection closed without reply")))
  | garbled {octets : Bytes} : Sent r d refusal →
      Receives r.timeout.nanos (reply (r.line g)) (.line octets) → (∀ s, octets ≠ Utf8.encode s) →
      Outcome (.error (.io notText))
  | broken {c : IoError} : Sent r d refusal → Receives r.timeout.nanos (reply (r.line g)) (.broken c) →
      Outcome (.error (.io c))
  | silence : Sent r d refusal → Receives r.timeout.nanos (reply (r.line g)) .silence →
      Outcome (.error .timeout)

end
end CertRotation.Requester
