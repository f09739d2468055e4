/-
Scrapes that run at the same time and share their gauges.

A scrape clears the two validity gauges, sets the generation, reads the current
identity, sets both gauges again and gathers all samples.  Each of these steps
is atomic, and steps of other scrapes and installs may fall between any two.
-/
import CertRotation.Metrics.Exporter

namespace CertRotation.Metrics.Scraping

/-- Where a scrape stands. -/
inductive Scrape where
  | clearNotBefore
  | clearNotAfter
  | setGeneration
  | readIdentity
  | setNotBefore (leaf : X509.Description)
  | setNotAfter (leaf : X509.Description)
  | gather
  | done (response : List Family)
deriving DecidableEq, Repr

/-- Gauges, store and scrapes. -/
structure State where
  gauges : Gauges := {}
  store : CredentialStore
  scrapes : List Scrape

/-- A number of scrapes that are about to begin. -/
def State.initial (store : CredentialStore) (scrapes : Nat) : State :=
  { store, scrapes := List.replicate scrapes .clearNotBefore }

/-- The next step of one scrape. -/
def advance (g : Gauges) (store : CredentialStore) : Scrape → Gauges × Scrape
  | .clearNotBefore => ({ g with notBefore := [] }, .clearNotAfter)
  | .clearNotAfter => ({ g with notAfter := [] }, .setGeneration)
  | .setGeneration => ({ g with generation := gaugeOf store.generation }, .readIdentity)
  | .readIdentity =>
    match leaf? store with
    | some d => (g, .setNotBefore d)
    | none => (g, .gather)
  | .setNotBefore d =>
    ({ g with notBefore := setSample g.notBefore ⟨labels d, d.notBefore⟩ }, .setNotAfter d)
  | .setNotAfter d =>
    ({ g with notAfter := setSample g.notAfter ⟨labels d, d.notAfter⟩ }, .gather)
  | .gather => (g, .done g.families)
  | .done response => (g, .done response)

/-- One atomic step: of a scrape, or an install. -/
inductive Move where
  | scrape (index : Nat)
  | install (identity : Identity)

/-- What a step makes of a state. -/
def State.step (s : State) : Move → State
  | .scrape n =>
    match s.scrapes[n]? with
    | none => s
    | some x =>
      let (gauges, x) := advance s.gauges s.store x
      { s with gauges := gauges, scrapes := s.scrapes.set n x }
  | .install i => { s with store := (s.store.install i).1 }

/-- What a sequence of steps makes of a state. -/
def State.run (s : State) (ms : List Move) : State :=
  ms.foldl State.step s

/-- Seven steps of a scrape with none of another between them. -/
def alone (g : Gauges) (store : CredentialStore) : Gauges × Scrape :=
  (List.range 7).foldl (fun p _ => advance p.1 store p.2) (g, .clearNotBefore)

/-- A scrape that runs by itself ends as one that is taken in one piece. -/
theorem alone_eq (g : Gauges) (store : CredentialStore) :
    alone g store = (g.scraped store, .done (g.scraped store).families) := by
  have hrange : List.range 7 = [0, 1, 2, 3, 4, 5, 6] := rfl
  unfold alone Gauges.scraped
  rw [hrange]
  simp only [List.foldl_cons, List.foldl_nil, advance]
  cases leaf? store <;> simp only

end CertRotation.Metrics.Scraping
