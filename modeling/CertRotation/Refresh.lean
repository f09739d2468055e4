/-
Scheduled reloads on a clock that only moves when told to.

The loop of a schedule waits for its cancellation or for its next tick, whichever
comes first, and looks at the cancellation first: a tick that is due when the loop
sees that it was cancelled does not happen.  No outcome of a reload ends the loop.
Time is let pass up to an instant and not through it; what the loop does at that
instant itself it does when it is given a turn, or when more time passes.
-/
import CertRotation.CredentialStore

namespace CertRotation

/-- The state of a loop that reloads a store at fixed intervals. -/
structure Schedule where
  interval : Nat
  /-- The instant of the next tick. -/
  deadline : Nat
  /-- The loop was asked to stop. -/
  cancelled : Bool := false
  /-- The loop has come to its end. -/
  stopped : Bool := false
  /-- The store that is refreshed, where it is no longer the one in use. -/
  own : Option CredentialStore := none

namespace Schedule

/-- How late a tick may be without moving those after it. -/
def slack : Nat := 5

/-- The deadline after a tick at an instant: a tick that comes too late delays the next one. -/
def next (s : Schedule) (now : Nat) : Nat :=
  if s.deadline + slack < now then now + s.interval else s.deadline + s.interval

end Schedule

/-- Files, a store and a clock, with a schedule over them. -/
structure Rotation where
  files : FileTree
  store : CredentialStore
  now : Nat
  schedule : Option Schedule

/-- An event and its instant. -/
structure Entry where
  instant : Nat
  event : Event
deriving DecidableEq, Repr

/-- Some events of one instant. -/
def Entry.stamp (instant : Nat) (events : List Event) : List Entry :=
  events.map fun e => ⟨instant, e⟩

namespace Rotation

/-- A store that has not loaded anything, over some files. -/
def new (files : FileTree) (paths : IdentityPaths) : Rotation :=
  ⟨files, .new paths, 0, none⟩

/-- One scheduled reload of a store, with its events. -/
def tick (files : FileTree) (s : CredentialStore) : CredentialStore × List Event :=
  match s.reload files with
  | .ok (s, e) => (s, [.checking, e])
  | .error e => (s, [.checking, .reloadFailed e])

/-- Starts a schedule: the first tick is one interval away.  The timer refuses an interval of zero,
and there is no loop then. -/
def startSchedule (r : Rotation) (interval : Nat) : Rotation :=
  { r with
    schedule := some { interval, deadline := r.now + interval, stopped := interval == 0 } }

/-! ## The loop -/

/-- What the loop does when it gets a turn at the present instant. -/
def turn (r : Rotation) : Rotation × List Event :=
  match r.schedule with
  | none => (r, [])
  | some sch =>
    if sch.stopped then (r, [])
    else if sch.cancelled then
      ({ r with schedule := some { sch with stopped := true } }, [.refreshStopped])
    else if r.now < sch.deadline then (r, [])
    else
      let rest := { sch with deadline := sch.next r.now }
      match sch.own with
      | none =>
        let (s, es) := tick r.files r.store
        ({ r with store := s, schedule := some rest }, es)
      | some own =>
        let (s, es) := tick r.files own
        ({ r with schedule := some { rest with own := some s } }, es)

/-- The next instant, up to a given one, at which the loop gets a turn. -/
def wake (schedule : Option Schedule) (now later : Nat) : Nat :=
  match schedule with
  | none => later
  | some sch => if sch.stopped then later else min later (max (now + 1) sch.deadline)

theorem lt_wake (schedule : Option Schedule) {now later : Nat} (h : now < later) :
    now < wake schedule now later := by
  unfold wake
  split
  · exact h
  · split <;> omega

/-- Lets time pass up to an instant.  The loop gets a turn now and at every tick on the way. -/
def pass (r : Rotation) (later : Nat) : Rotation × List Entry :=
  if h : r.now < later then
    let (s, es) := r.turn
    have : later - wake s.schedule r.now later < later - r.now := by
      have := lt_wake s.schedule h
      omega
    let (last, rest) := pass { s with now := wake s.schedule r.now later } later
    (last, Entry.stamp r.now es ++ rest)
  else (r, [])
termination_by later - r.now

/-- Lets an amount of time pass. -/
def advance (r : Rotation) (d : Nat) : Rotation × List Event :=
  let (r, es) := r.pass (r.now + d)
  (r, es.map (·.event))

/-- Asks the schedule to stop. -/
def ask (r : Rotation) : Rotation :=
  { r with schedule := r.schedule.map ({ · with cancelled := true }) }

/-- Cancels the schedule and gives the loop a turn. -/
def cancel (r : Rotation) : Rotation × List Event :=
  r.ask.turn

/-- Cancels the schedule and lets go of it. -/
def shutdown (r : Rotation) : Rotation × List Event :=
  let (r, es) := r.cancel
  ({ r with schedule := none }, es)

/-- Puts a new store in place; a schedule goes on with the old one. -/
def replaceStore (r : Rotation) (s : CredentialStore) : Rotation :=
  { r with
    store := s
    schedule := r.schedule.map fun sch => { sch with own := some (sch.own.getD r.store) } }

/-! ## Runs -/

/-- What others do to the files and the store. -/
inductive Act where
  | write (path : String) (data : Bytes)
  | remove (path : String)
  | load (cert key : String)

/-- What an act makes of the files and the store; a load that fails changes nothing. -/
def Act.perform (files : FileTree) (store : CredentialStore) :
    Act → FileTree × CredentialStore × List Event
  | .write path data => (files.write path data, store, [])
  | .remove path => ((files.remove? path).getD files, store, [])
  | .load cert key =>
    match store.load files cert key with
    | .ok (s, e) => (files, s, [e])
    | .error _ => (files, store, [])

/-- One step of a run. -/
inductive Step where
  | acts (act : Act)
  | advance (duration : Nat)
  /-- The loop gets a turn, and no time passes. -/
  | turn
  | cancel

/-- What one step makes of a rotation, with its events. -/
def step (r : Rotation) : Step → Rotation × List Entry
  | .acts a =>
    let (files, store, es) := a.perform r.files r.store
    ({ r with files, store }, Entry.stamp r.now es)
  | .advance d => r.pass (r.now + d)
  | .turn =>
    let (s, es) := r.turn
    (s, Entry.stamp r.now es)
  | .cancel => (r.ask, [])

/-- What a sequence of steps makes of a rotation, with all events. -/
def run (r : Rotation) : List Step → Rotation × List Entry
  | [] => (r, [])
  | s :: ss =>
    let (r, es) := r.step s
    let (r, es') := r.run ss
    (r, es ++ es')

end Rotation
end CertRotation
