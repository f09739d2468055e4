/-
The exporter: gauges in front of a store.

The gauges outlive a scrape, so what one scrape leaves in them is there when the
next begins.  A scrape clears the two validity gauges, sets the generation, sets
the validity again if the current leaf can be described, and gathers what is set.
-/
import CertRotation.CredentialStore.Operation
import CertRotation.Metrics

namespace CertRotation.Metrics

/-! ## Gauges -/

/-- The gauges of an exporter; the validity gauges hold one sample for each set of labels. -/
structure Gauges where
  generation : Int := 0
  notBefore : List Sample := []
  notAfter : List Sample := []
deriving DecidableEq, Repr

/-- Sets the sample with the given labels. -/
def setSample (ss : List Sample) (s : Sample) : List Sample :=
  ss.filter (·.labels ≠ s.labels) ++ [s]

theorem setSample_nil (s : Sample) : setSample [] s = [s] := rfl

namespace Gauges

/-- The families that a gathering finds, in order of their names. -/
def families (g : Gauges) : List Family :=
  [⟨generationName, generationHelp, [⟨[], g.generation⟩]⟩,
    ⟨notAfterName, notAfterHelp, g.notAfter⟩,
    ⟨notBeforeName, notBeforeHelp, g.notBefore⟩]

/-- The gauges at the end of a scrape. -/
def scraped (g : Gauges) (s : CredentialStore) : Gauges :=
  let g := { g with notBefore := [] }
  let g := { g with notAfter := [] }
  let g := { g with generation := gaugeOf s.generation }
  match leaf? s with
  | none => g
  | some d =>
    let g := { g with notBefore := setSample g.notBefore ⟨labels d, d.notBefore⟩ }
    { g with notAfter := setSample g.notAfter ⟨labels d, d.notAfter⟩ }

/-- What is gathered after a scrape is what the store holds, whatever the gauges held before. -/
theorem families_scraped (g : Gauges) (s : CredentialStore) :
    (g.scraped s).families = Metrics.families s.generation (leaf? s) := by
  unfold scraped
  cases leaf? s with
  | none => simp only [families, Metrics.families, Option.map_none, Option.toList_none]
  | some d =>
      simp only [families, Metrics.families, setSample_nil, Option.map_some, Option.toList_some]

end Gauges

/-- The text of gathered families. -/
def bodyOf (families : List Family) : String :=
  String.ofList (families.flatMap writeFamily)

/-! ## Requests in the course of a run -/

/-- An exporter and the store that it reports on. -/
structure Exporter where
  store : CredentialStore
  gauges : Gauges := {}

/-- What happens to an exporter or to its store. -/
inductive Occurrence where
  | performed (op : CredentialStore.Operation)
  | asked (method path : String)

/-- What an occurrence is to the store. -/
def Occurrence.moment? : Occurrence → Option CredentialStore.Moment
  | .performed op => some (.performed op)
  | .asked _ _ => none

namespace Exporter

/-- The answer to a request.  A request for the head alone is a scrape as well. -/
def ask (e : Exporter) (method path : String) : Exporter × Answer × List Event :=
  let gauges := e.gauges.scraped e.store
  if path ≠ "/metrics" then (e, ⟨404, ""⟩, [])
  else if method = "GET" then
    ({ e with gauges := gauges }, ⟨200, bodyOf gauges.families⟩, events e.store)
  else if method = "HEAD" then ({ e with gauges := gauges }, ⟨200, ""⟩, events e.store)
  else (e, ⟨405, ""⟩, [])

/-- What an occurrence makes of an exporter. -/
def step (e : Exporter) : Occurrence → Exporter
  | .performed op =>
    match op.attempt e.store with
    | .ok (s, _) => { e with store := s }
    | .error _ => e
  | .asked method path => (e.ask method path).1

/-- What a run makes of an exporter. -/
def run (e : Exporter) (os : List Occurrence) : Exporter :=
  os.foldl step e

end Exporter
end CertRotation.Metrics
