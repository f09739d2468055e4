/-
Runs of a store: operations one after the other, whatever becomes of each, before
an audience that joins and looks when it likes.

All that a store shows after a run follows from the list of identities that the
successful operations installed: the last of them is the current one, and the
generation counts those whose chain is not the one before.
-/
import CertRotation.CredentialStore

namespace CertRotation.CredentialStore

/-- One operation on a store. -/
inductive Operation where
  | reload (files : FileTree)
  | load (files : FileTree) (cert key : String)
  | replace (identity : Identity)

namespace Operation

/-- The identity that an operation comes with. -/
def identity (paths : IdentityPaths) : Operation → Except LoadError Identity
  | .reload files => Identity.load files paths.cert paths.key
  | .load files cert key => Identity.load files cert key
  | .replace i => .ok i

/-- The store after an operation and the event of the install, or why it failed. -/
def attempt (s : CredentialStore) : Operation → Except LoadError (CredentialStore × Event)
  | .reload files => s.reload files
  | .load files cert key => s.load files cert key
  | .replace i => .ok (s.install i)

end Operation

/-- Whether an identity has another chain than the one before it. -/
def changesChain (before : Option Identity) (i : Identity) : Bool :=
  !before.any (·.sharesChain i)

/-! ## What a list of installs shows -/

/-- The `k`-th of some identities is the first, or has another chain than the one before it. -/
def Counts (is : List Identity) (k : Nat) : Prop :=
  k = 0 ∨ is[k]?.map (·.chain) ≠ is[k - 1]?.map (·.chain)

instance (is : List Identity) : DecidablePred (Counts is) := fun k =>
  inferInstanceAs (Decidable (k = 0 ∨ is[k]?.map (·.chain) ≠ is[k - 1]?.map (·.chain)))

/-- The positions of the identities that count. -/
def counted (is : List Identity) : List Nat :=
  (List.range is.length).filter (Counts is)

/-- What is reported when the `k`-th of some identities is installed. -/
def eventAt (is : List Identity) (k : Nat) : Event :=
  if Counts is k then .loadedCertificate (is[k]?.bind (·.description?)) else .certificateUnchanged

/-! ## Runs with subscribers -/

/-- What happens at one moment of a run that is watched. -/
inductive Moment where
  | performed (op : Operation)
  /-- A new subscriber joins, behind the others. -/
  | subscribed
  /-- A subscriber marks the present generation as seen. -/
  | looked (subscriber : Nat)

/-- The identity that a moment installs, if any. -/
def Moment.identity? (paths : IdentityPaths) : Moment → Option Identity
  | .performed op => (op.identity paths).toOption
  | .subscribed | .looked _ => none

/-- The identities that a run installs, in order. -/
def installed (paths : IdentityPaths) (ms : List Moment) : List Identity :=
  ms.filterMap (·.identity? paths)

/-- A store and those who watch it. -/
structure Audience where
  store : CredentialStore
  subscriptions : List Subscription := []

namespace Audience

/-- What one moment makes of a store and its audience, with its events. -/
def step (a : Audience) : Moment → Audience × List Event
  | .performed op =>
    match op.attempt a.store with
    | .ok (s, e) => ({ a with store := s }, [e])
    | .error _ => (a, [])
  | .subscribed => ({ a with subscriptions := a.subscriptions ++ [a.store.subscribe] }, [])
  | .looked i => ({ a with subscriptions := a.subscriptions.set i a.store.subscribe }, [])

/-- What a run makes of a store and its audience, with all events. -/
def steps (a : Audience) : List Moment → Audience × List Event
  | [] => (a, [])
  | m :: ms =>
    let (a, es) := a.step m
    let (a, es') := a.steps ms
    (a, es ++ es')

/-- Whether a subscriber has something new to see. -/
def hasNews (a : Audience) (subscriber : Nat) : Bool :=
  a.subscriptions[subscriber]?.any a.store.hasChanged

end Audience
end CertRotation.CredentialStore
