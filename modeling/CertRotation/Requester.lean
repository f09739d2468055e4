/-
The requester's side: one connection for each request, and the loop that sends
both greetings over and over.

The other side is a `Peer`: whether and when a connection to it opens, and what
it sends in answer to a line.  A run is a function of the peers that its
connections meet, one after the other, and of the moment of its cancellation.
-/
import CertRotation.Greeting
import CertRotation.Net.Stream
import CertRotation.Settings.Basic
import CertRotation.Target

namespace CertRotation

open Text Net

/-- How the attempt to connect and to shake hands ends. -/
inductive Opening where
  | refused (cause : IoError)
  | rejected (cause : String)
  | ready
deriving DecidableEq, Repr

/-- What one connection meets. -/
structure Peer where
  /-- How the connection opens; `none` if no answer ever comes. -/
  opening : Option (Timed Opening)
  /-- Why the request line cannot be sent. -/
  refusal : Option IoError := none
  /-- What comes back for a request line, timed from its sending. -/
  reply : Bytes → List (Timed Arrival)

/-- A connection that is refused at once. -/
def Peer.refusing (cause : IoError) : Peer :=
  { opening := some ⟨0, .refused cause⟩, reply := fun _ => [] }

/-- A client of one greeter. -/
structure Requester where
  target : Target
  serverName : ServerName
  name : String
  timeout : Duration
deriving DecidableEq, Repr

namespace Requester

/-- A requester that verifies the name given, or else the name of its target. -/
def new? (target : Target) (given : Option String) (name : String) (timeout : Duration) :
    Except Failure Requester :=
  let serverName := match given with
    | some n => ServerName.parse? n.toList
    | none => target.serverName?
  match serverName with
  | some n => .ok ⟨target, n, name, timeout⟩
  | none => .error .invalidTarget

/-- What a requester meets: a peer, where a connection to its target opens at all. -/
def meets (r : Requester) (n : Network) (names : Resolver) (p : Peer) : Peer :=
  match r.target.destination.dial n names with
  | .ok () => p
  | .error c => .refusing c

/-! ## One request -/

/-- The octets of a request. -/
def line (r : Requester) (g : Greeting) : Bytes :=
  Utf8.encode (g.request r.name).toList

/-- A connection that was closed before any octet came. -/
def noReply : IoError :=
  .unexpectedEof "connection closed without reply"

/-- How a connection has opened within the timeout. -/
def opened? (r : Requester) (p : Peer) : Option Opening :=
  (p.opening.filter fun o => o.after ≤ r.timeout.nanos).map (·.value)

/-- The reply that a peer's arrivals amount to. -/
def readReply (r : Requester) (as : List (Timed Arrival)) : Except Failure String :=
  match (Stream.upTo r.timeout.nanos as).readText with
  | none => .error .timeout
  | some (.error c) => .error (.io c)
  | some (.ok []) => .error (.io noReply)
  | some (.ok t) => .ok (String.ofList (trimEnd t))

/-- The outcome of one request. -/
def request (r : Requester) (g : Greeting) (p : Peer) : Except Failure String :=
  match r.opened? p with
  | none => .error .timeout
  | some (.refused c) => .error (.io c)
  | some (.rejected t) => .error (.handshake t)
  | some .ready =>
    match p.refusal with
    | some c => .error (.io c)
    | none => r.readReply (p.reply (r.line g))

/-- The request line reaches the peer. -/
def delivers (r : Requester) (p : Peer) : Bool :=
  r.opened? p == some .ready && p.refusal.isNone

/-- How long an answered request takes. -/
def elapsed (r : Requester) (g : Greeting) (p : Peer) : Nat :=
  (p.opening.elim 0 (·.after)) + ((lineAt? (p.reply (r.line g))).getD 0)

/-! ## The loop -/

/-- The moment of a cancellation, and what happens if it falls on the end of a pause. -/
structure Cancellation where
  moment : Option Nat
  winsTie : Bool := true

namespace Cancellation

/-- A run that is never cancelled. -/
def never : Cancellation := ⟨none, true⟩

/-- Whether a pause that would last until an instant is cut short. -/
def endsPause (c : Cancellation) (until_ : Nat) : Bool :=
  match c.moment with
  | none => false
  | some t => t < until_ || (t == until_ && c.winsTie)

end Cancellation

/-- One thing that a run does. -/
inductive Step where
  | opens (greeting : Greeting)
  | prints (reply : String)
deriving DecidableEq, Repr

namespace Step

/-- The greeting of a connection that is opened. -/
def greeting? : Step → Option Greeting
  | .opens g => some g
  | .prints _ => none

/-- The reply that is printed. -/
def reply? : Step → Option String
  | .opens _ => none
  | .prints t => some t

end Step

/-- What a run did, one thing after the other, each with its instant, and how it ended; `none`
while it goes on. -/
structure Run where
  steps : List (Timed Step) := []
  result : Option (Except Failure Unit) := none

namespace Run

/-- The requests that a run began, with their instants. -/
def begun (run : Run) : List (Nat × Greeting) :=
  run.steps.filterMap fun s => s.value.greeting?.map fun g => (s.after, g)

/-- The replies that a run printed. -/
def printed (run : Run) : List String :=
  run.steps.filterMap (·.value.reply?)

/-- A request that was answered, before the rest of a run. -/
def afterReply (start : Nat) (g : Greeting) (answered : Nat) (reply : String) (rest : Run) : Run :=
  { rest with steps := ⟨start, .opens g⟩ :: ⟨answered, .prints reply⟩ :: rest.steps }

/-- A request that failed ends a run. -/
def failed (start : Nat) (g : Greeting) (e : Failure) : Run :=
  ⟨[⟨start, .opens g⟩], some (.error e)⟩

/-- A run that was cancelled. -/
def stopped : Run := ⟨[], some (.ok ())⟩

end Run

/-- Sends both greetings in turn, pauses after the second, and starts again, until it is cancelled
in a pause or a request fails.  The run is followed for as many connections as there are peers. -/
def runFrom (r : Requester) (interval : Nat) (c : Cancellation) (g : Greeting) (now : Nat) :
    List Peer → Run
  | [] => {}
  | p :: ps =>
    match r.request g p with
    | .error e => .failed now g e
    | .ok reply =>
      let answered := now + r.elapsed g p
      .afterReply now g answered reply <|
        match g with
        | .hello => runFrom r interval c .helloAgain answered ps
        | .helloAgain =>
          let pauseEnd := answered + interval
          if c.endsPause pauseEnd then .stopped else runFrom r interval c .hello pauseEnd ps

/-- A run from the instant zero. -/
def run (r : Requester) (interval : Duration) (c : Cancellation) (peers : List Peer) : Run :=
  r.runFrom interval.nanos c .hello 0 peers

end Requester
end CertRotation
