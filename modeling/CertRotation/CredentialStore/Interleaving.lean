/-
A store that several tasks use at once.

A load takes a lock, reads, swaps the identity in, raises the generation if the
chain is another, and lets go of the lock.  A direct replacement does the same
without the lock, so several tasks can stand between their swap and the raise.
Readers ask for the identity and for the generation whenever they like; a scrape
of the metrics asks for the generation first.

Each step is atomic, and a run is any sequence of steps of any tasks.  A step
that a task cannot take just then changes nothing.  What was swapped in and what
was read is written down, so that a run can be judged by its history.
-/
import CertRotation.CredentialStore.Operation

namespace CertRotation.CredentialStore.Interleaving

/-! ## The history of a run -/

/-- One swap that has happened. -/
structure Swap where
  /-- The number that a load drew with the lock; a direct replacement has none. -/
  ticket : Option Nat
  identity : Identity
  changed : Bool

/-- How many swaps have changed the chain. -/
def chainSwaps (swaps : List Swap) : Nat :=
  swaps.countP (·.changed)

/-- The swap at position `n` changed the chain for the `g`-th time. -/
def IsChange (swaps : List Swap) (g n : Nat) : Prop :=
  (∃ w, swaps[n]? = some w ∧ w.changed = true) ∧ chainSwaps (swaps.take n) + 1 = g

/-- The identity was installed by the swap of the `g`-th chain change or by a later one. -/
def InstalledSince (swaps : List Swap) (g : Nat) (i : Identity) : Prop :=
  ∃ m n, IsChange swaps g m ∧ m ≤ n ∧ swaps[n]?.map (·.identity) = some i

/-- What is current after the first `n` swaps. -/
def currentAfter (swaps : List Swap) (n : Nat) : Option Identity :=
  (swaps.take n).getLast?.map (·.identity)

/-- What a reader is told. -/
inductive Answer where
  | identity (current : Option Identity)
  /-- The generation, asked of the store or seen through a subscription to it. -/
  | generation (count : Nat)

/-- One reading that has happened. -/
structure Sighting where
  /-- How many swaps there had been. -/
  moment : Nat
  answer : Answer

/-! ## Tasks -/

/-- Where a task stands.  A load carries the number that it drew with the lock. -/
inductive Task where
  | idle
  | reading (ticket : Nat)
  | swapping (ticket : Option Nat) (identity : Identity)
  /-- The identity is in place; `changed` says whether the generation is still to be raised. -/
  | raising (ticket : Option Nat) (changed : Bool)
  | releasing (ticket : Nat)
  /-- A scrape that has asked for the generation and not yet for the identity. -/
  | scraping (generation : Nat)

namespace Task

/-- The task has changed the chain and not yet raised the generation. -/
def isPending : Task → Bool
  | .raising _ changed => changed
  | _ => false

/-- The number of the task that holds the lock. -/
def ticket? : Task → Option Nat
  | .reading ticket | .releasing ticket => some ticket
  | .swapping ticket _ | .raising ticket _ => ticket
  | .idle | .scraping _ => none

/-- The task may still swap an identity in before it lets go of the lock. -/
def isBeforeSwap : Task → Bool
  | .reading _ | .swapping _ _ => true
  | _ => false

/-- A task whose replacement is over. -/
def afterRaise : Option Nat → Task
  | some ticket => .releasing ticket
  | none => .idle

end Task

/-- One atomic step of a task. -/
inductive Move where
  | acquire
  /-- Both files are read and parsed. -/
  | read (files : FileTree) (cert key : String)
  /-- A direct replacement begins. -/
  | replace (identity : Identity)
  | swap
  | raise
  | release
  /-- A reader asks for the current identity. -/
  | look
  /-- A reader asks for the generation. -/
  | count
  /-- A scrape asks for the generation. -/
  | scrape
  /-- A scrape asks for the current identity and reports both. -/
  | report

/-! ## Steps -/

/-- What the tasks share, with its history. -/
structure Shared where
  store : CredentialStore
  locked : Bool := false
  /-- How often the lock was taken. -/
  tickets : Nat := 0
  swaps : List Swap := []
  /-- All readings, oldest first. -/
  sightings : List Sighting := []
  /-- The generation and the identity that each finished scrape has put together. -/
  reports : List (Nat × Option Identity) := []

namespace Shared

/-- The answer to a reader is written down. -/
def answering (s : Shared) (a : Answer) : Shared :=
  { s with sightings := s.sightings ++ [⟨s.swaps.length, a⟩] }

/-- The lock is taken. -/
def acquired (s : Shared) : Shared :=
  { s with locked := true, tickets := s.tickets + 1 }

/-- An identity is put in place of the one that is current. -/
def swapped (s : Shared) (ticket : Option Nat) (i : Identity) : Shared :=
  { s with
    store := { s.store with current := some i }
    swaps := s.swaps ++ [⟨ticket, i, changesChain s.store.current i⟩] }

/-- The generation is raised if the chain has changed. -/
def raised (s : Shared) (changed : Bool) : Shared :=
  { s with store := { s.store with generation := s.store.generation + if changed then 1 else 0 } }

/-- A scrape has its two answers. -/
def reported (s : Shared) (generation : Nat) : Shared :=
  { s.answering (.identity s.store.current) with
    reports := s.reports ++ [(generation, s.store.current)] }

end Shared

/-- What a step makes of the shared store and the task. -/
def move (s : Shared) (t : Task) (m : Move) : Shared × Task :=
  match t, m with
  | .idle, .acquire => if s.locked then (s, .idle) else (s.acquired, .reading s.tickets)
  | .idle, .replace i => (s, .swapping none i)
  | .idle, .look => (s.answering (.identity s.store.current), .idle)
  | .idle, .count => (s.answering (.generation s.store.generation), .idle)
  | .idle, .scrape =>
    (s.answering (.generation s.store.generation), .scraping s.store.generation)
  | .scraping generation, .report => (s.reported generation, .idle)
  | .reading ticket, .read files cert key =>
    match Identity.load files cert key with
    | .ok i => (s, .swapping (some ticket) i)
    | .error _ => (s, .releasing ticket)
  | .swapping ticket i, .swap => (s.swapped ticket i, .raising ticket (changesChain s.store.current i))
  | .raising ticket changed, .raise => (s.raised changed, .afterRaise ticket)
  | .releasing _, .release => ({ s with locked := false }, .idle)
  | t, _ => (s, t)

/-- The shared store and its tasks. -/
structure State where
  shared : Shared
  tasks : List Task

namespace State

/-- A number of idle tasks over an empty store. -/
def initial (paths : IdentityPaths) (tasks : Nat) : State :=
  ⟨{ store := CredentialStore.new paths }, List.replicate tasks .idle⟩

/-- What a step of one of the tasks makes of a state. -/
def step (s : State) (n : Nat) (m : Move) : State :=
  match s.tasks[n]? with
  | none => s
  | some t =>
    let (shared, t) := move s.shared t m
    ⟨shared, s.tasks.set n t⟩

/-- What a sequence of steps makes of a state. -/
def run (s : State) : List (Nat × Move) → State
  | [] => s
  | (n, m) :: rest => (s.step n m).run rest

/-- How many tasks have changed the chain and have yet to raise the generation. -/
def pending (s : State) : Nat :=
  s.tasks.countP Task.isPending

end State
end CertRotation.CredentialStore.Interleaving
