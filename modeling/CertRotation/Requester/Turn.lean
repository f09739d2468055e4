/-
Requests by turns.

The requests of a run are numbered from zero, and the number of a request tells its greeting and
the peer that its connection meets.  What a run may look like is said in these terms, without the
loop: who is greeted how, in which order things happen, when and how a run ends.
-/
import CertRotation.Requester

namespace CertRotation.Requester

open Net

/-- The greeting of a request, by the number of requests before it. -/
def greetingAt (k : Nat) : Greeting :=
  if k % 2 = 0 then .hello else .helloAgain

/-- What requests come to, numbered from `k` on, each at the next of the peers. -/
def outcomesFrom (r : Requester) (k : Nat) (peers : List Peer) : List (Except Failure String) :=
  peers.mapIdx fun i p => r.request (greetingAt (k + i)) p

/-- What the requests come to that a run has begun. -/
def Run.outcomes (run : Run) (r : Requester) (peers : List Peer) : List (Except Failure String) :=
  (r.outcomesFrom 0 peers).take run.begun.length

/-- A run as it has to be. -/
structure Orderly (r : Requester) (interval : Duration) (c : Cancellation) (peers : List Peer)
    (run : Run) : Prop where
  /-- The greetings take turns, one peer after the other. -/
  turns : run.begun.map (·.2) = (List.range run.begun.length).map greetingAt ∧
    run.begun.length ≤ peers.length
  /-- When a connection is opened, the reply of each one before it has been printed. -/
  oneAtATime : ∀ before s later, run.steps = before ++ s :: later → s.value.greeting? ≠ none →
    (before.filterMap (·.value.reply?)).length = (before.filterMap (·.value.greeting?)).length
  /-- Time does not go back. -/
  inOrder : run.steps.Pairwise (·.after ≤ ·.after)
  /-- The replies are those of the answered requests, in order. -/
  replies : run.printed = (run.outcomes r peers).filterMap Except.toOption
  /-- A run fails with the first failure among its requests, and only then. -/
  fails : ∀ e, run.result = some (.error e) ↔
    ∃ k : Nat, (run.outcomes r peers)[k]? = some (Except.error e) ∧
      ∀ i : Nat, i < k → ∃ t, (run.outcomes r peers)[i]? = some (Except.ok t)
  /-- No connection is opened after a failure. -/
  endsThere : ∀ (k : Nat) (e : Failure), (run.outcomes r peers)[k]? = some (Except.error e) → run.begun.length = k + 1
  /-- A run ends well only if it is cancelled, at the latest when the pause ends that follows its
  last reply. -/
  cancelled : run.result = some (.ok ()) → ∃ t last, c.moment = some t ∧
    run.steps.getLast? = some last ∧ t ≤ last.after + interval.nanos
  /-- It ends well only after pairs of answered requests, one pair at least. -/
  inPairs : run.result = some (.ok ()) →
    0 < run.printed.length ∧ run.printed.length % 2 = 0 ∧ run.begun.length = run.printed.length
  /-- Two requests at most begin at the moment of the cancellation or later. -/
  stops : ∀ t, c.moment = some t → (run.begun.filter fun b => t ≤ b.1).length ≤ 2
  /-- A run that has not ended has met all peers there are. -/
  goesOn : run.result = none → run.begun.length = peers.length

end CertRotation.Requester
