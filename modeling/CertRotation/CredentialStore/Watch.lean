/-
The generation as a value that others watch, and the moments of a run that
matter to a watcher.

A watched value has a version.  Every change raises the version, whether or not
anybody watches and whatever the change makes of the value.  A watcher knows a
version: the present one when it joins, and again when it looks.
-/
import CertRotation.CredentialStore.Operation

namespace CertRotation.CredentialStore

/-! ## Watched values -/

/-- A number that can be watched. -/
structure Watched where
  value : Nat := 0
  version : Nat := 0

/-- A watcher and the version that it has seen. -/
structure Watcher where
  seen : Nat
deriving DecidableEq, Repr

namespace Watched

/-- The value is changed. -/
def modify (w : Watched) (f : Nat → Nat) : Watched :=
  ⟨f w.value, w.version + 1⟩

/-- A watcher that has seen what there is. -/
def watcher (w : Watched) : Watcher :=
  ⟨w.version⟩

/-- Whether there has been a change that a watcher has not seen. -/
def hasChanged (w : Watched) (r : Watcher) : Bool :=
  w.version != r.seen

end Watched

/-! ## A store that broadcasts its generation -/

/-- The current identity, the generation as a watched value, and its watchers. -/
structure Broadcast where
  current : Option Identity := none
  generation : Watched := {}
  watchers : List Watcher := []

namespace Broadcast

/-- A new identity takes the place of the current one.  The generation is touched only if the
chain is another. -/
def replace (b : Broadcast) (i : Identity) : Broadcast :=
  if changesChain b.current i then
    { b with current := some i, generation := b.generation.modify (· + 1) }
  else { b with current := some i }

/-- What one moment of a run makes of it. -/
def step (paths : IdentityPaths) (b : Broadcast) : Moment → Broadcast
  | .performed op =>
    match op.identity paths with
    | .ok i => b.replace i
    | .error _ => b
  | .subscribed => { b with watchers := b.watchers ++ [b.generation.watcher] }
  | .looked i => { b with watchers := b.watchers.set i b.generation.watcher }

/-- What a run makes of it. -/
def run (paths : IdentityPaths) (ms : List Moment) : Broadcast :=
  ms.foldl (step paths) {}

/-- Whether a watcher has something new to see. -/
def hasChanged (b : Broadcast) (watcher : Nat) : Bool :=
  b.watchers[watcher]?.any b.generation.hasChanged

end Broadcast

/-! ## The moments of a run -/

/-- A new subscriber joins. -/
def Moment.joins : Moment → Bool
  | .subscribed => true
  | .performed _ | .looked _ => false

/-- How many subscribers have joined in a run. -/
def joined (ms : List Moment) : Nat :=
  ms.countP (·.joins)

/-- At the `k`-th moment of a run a subscriber sees the generation: it joins, or it looks. -/
def Sees (ms : List Moment) (subscriber k : Nat) : Prop :=
  (ms[k]? = some .subscribed ∧ joined (ms.take k) = subscriber) ∨
    (ms[k]? = some (.looked subscriber) ∧ subscriber < joined (ms.take k))

/-- The `k`-th moment is the last at which a subscriber sees the generation. -/
structure SeesLast (ms : List Moment) (subscriber k : Nat) : Prop where
  sees : Sees ms subscriber k
  last : ∀ j, Sees ms subscriber j → j ≤ k

/-- At the `k`-th moment of a run an identity is installed whose chain is not the current one. -/
def changesAt (paths : IdentityPaths) (ms : List Moment) (k : Nat) : Bool :=
  (ms[k]?.bind (·.identity? paths)).any (changesChain (installed paths (ms.take k)).getLast?)

/-- A store that has loaded nothing and is watched by nobody, after a run. -/
def audienceAfter (paths : IdentityPaths) (ms : List Moment) : Audience :=
  ((⟨new paths, []⟩ : Audience).steps ms).1

end CertRotation.CredentialStore
