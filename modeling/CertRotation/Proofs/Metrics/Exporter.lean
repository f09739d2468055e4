/-
# `Proofs.Metrics.Exporter` — a scrape shows the present and nothing else

The gauges survive a scrape, but every scrape begins by clearing them:

    the answer to a request is that of the store alone        (`ask_eq`)
    a request leaves the store as it is                       (`store_ask`, `store_run`)
    the body reads back as the samples of the present leaf    (`shows_body`)

The last is `readBody?_families` at the families of a store: their names and help texts are fixed,
and what a certificate brings is in the label values only.
-/
import CertRotation.Metrics.Exporter
import CertRotation.Proofs.Metrics.Reading

namespace CertRotation.Metrics

open Text

/-! ## Requests -/

/-- Whatever the gauges hold, the answer is that of the store. -/
theorem Exporter.ask_eq (e : Exporter) (method path : String) :
    (e.ask method path).2 = answer e.store method path := by
  have hbody : bodyOf (e.gauges.scraped e.store).families = body e.store := by
    rw [Gauges.families_scraped]
    rfl
  unfold ask answer
  split
  · rfl
  · split
    · simp only [hbody]
    · split <;> rfl

theorem Exporter.store_ask (e : Exporter) (method path : String) :
    (e.ask method path).1.store = e.store := by
  unfold ask
  split
  · rfl
  · split
    · rfl
    · split <;> rfl

/-- Requests left out, an exporter's store goes through the same run. -/
theorem Exporter.store_run (e : Exporter) (os : List Occurrence) :
    (e.run os).store =
      ((⟨e.store, []⟩ : CredentialStore.Audience).steps
        (os.filterMap Occurrence.moment?)).1.store := by
  induction os generalizing e with
  | nil => rfl
  | cons o os ih =>
      rw [run, List.foldl_cons]
      refine (ih (e.step o)).trans ?_
      cases o with
      | asked method path =>
          rw [step, store_ask]
          rfl
      | performed op =>
          simp only [step, Occurrence.moment?, List.filterMap_cons, CredentialStore.Audience.steps,
            CredentialStore.Audience.step]
          cases op.attempt e.store <;> rfl

/-! ## What a body shows -/

/-- What a body shows of a store, read in the text format: the generation, exactly while it fits
the gauge (and a double, up to 2 ^ 53: see `Metrics`), and the two bounds of the current leaf under
its names and its serial number, if there is a current leaf that parses. -/
structure Shows (s : CredentialStore) (body : String) : Prop where
  fits : s.generation < 9223372036854775808 → gaugeOf s.generation = s.generation
  described : ∀ i d, s.current = some i → X509.Description.ofDer? i.leaf = some d →
    readBody? body = some
      [⟨"hello_mtls_identity_generation", [], gaugeOf s.generation, none⟩,
        ⟨"hello_mtls_identity_not_after", [("issuer", d.issuer),
          ("serial_number", String.ofList (Decimal.write d.serial)), ("subject", d.subject)],
          d.notAfter, none⟩,
        ⟨"hello_mtls_identity_not_before", [("issuer", d.issuer),
          ("serial_number", String.ofList (Decimal.write d.serial)), ("subject", d.subject)],
          d.notBefore, none⟩]
  undescribed : (∀ i, s.current = some i → X509.Description.ofDer? i.leaf = none) →
    readBody? body = some [⟨"hello_mtls_identity_generation", [], gaugeOf s.generation, none⟩]

/-- The samples of a leaf carry three labels with names of their own. -/
theorem isLabelName_labels (d : X509.Description) : ∀ l ∈ labels d, IsLabelName l.1 := by
  intro l hl
  simp only [labels, List.mem_cons, List.not_mem_nil, or_false] at hl
  have hnames : IsLabelName "issuer" ∧ IsLabelName "serial_number" ∧ IsLabelName "subject" := by
    refine ⟨?_, ?_, ?_⟩ <;> rfl
  rcases hl with rfl | rfl | rfl
  · exact hnames.1
  · exact hnames.2.1
  · exact hnames.2.2

theorem readable_families (generation : Nat) (leaf : Option X509.Description) :
    ∀ f ∈ families generation leaf, f.Readable := by
  have hleaf (value : X509.Description → Int) :
      ∀ s ∈ (leaf.map fun d => (⟨labels d, value d⟩ : Sample)).toList, ∀ l ∈ s.labels,
        IsLabelName l.1 := by
    intro s hs
    obtain ⟨d, -, rfl⟩ := Option.map_eq_some_iff.mp (Option.mem_toList.mp hs)
    exact isLabelName_labels d
  intro f hf
  simp only [families, List.mem_cons, List.not_mem_nil, or_false] at hf
  have hnames : IsMetricName generationName ∧ IsMetricName notAfterName ∧
      IsMetricName notBeforeName := by
    refine ⟨?_, ?_, ?_⟩ <;> rfl
  have hgeneration : '\n' ∉ generationHelp.toList := by decide
  have hnotAfter : '\n' ∉ notAfterHelp.toList := by decide
  have hnotBefore : '\n' ∉ notBeforeHelp.toList := by decide
  rcases hf with rfl | rfl | rfl
  · refine ⟨hnames.1, hgeneration, ?_⟩
    intro s hs
    rw [List.mem_singleton.mp hs]
    exact fun l hl => absurd hl List.not_mem_nil
  · exact ⟨hnames.2.1, hnotAfter, hleaf _⟩
  · exact ⟨hnames.2.2, hnotBefore, hleaf _⟩

theorem shows_body (s : CredentialStore) : Shows s (body s) := by
  have hread := readBody?_families (readable_families s.generation (leaf? s))
  constructor
  · exact gaugeOf_of_lt
  · intro i d hi hd
    have hleaf : leaf? s = some d := by
      rw [leaf?, hi]
      exact hd
    rw [hleaf] at hread
    rw [body, hleaf]
    exact hread
  · intro hnone
    have hleaf : leaf? s = none := by
      unfold leaf?
      cases hi : s.current with
      | none => rfl
      | some i => exact hnone i hi
    rw [hleaf] at hread
    rw [body, hleaf]
    exact hread

/-- After any run of operations and requests, and whatever the gauges held when it began:

- the store is what the operations alone have made of it;
- every request is answered as the store stands, as if by an exporter that was never asked before;
- the body of a scrape reads back as the generation and, if there is a current leaf that parses, one
  sample of either bound, labelled with the leaf's issuer, serial number and subject as they are;
  nothing else is in it, whatever characters the names hold. -/
theorem scrape_shows_the_present (e : Exporter) (os : List Occurrence) :
    (e.run os).store =
        ((⟨e.store, []⟩ : CredentialStore.Audience).steps
          (os.filterMap Occurrence.moment?)).1.store ∧
      (∀ method path, ((e.run os).ask method path).2 = answer (e.run os).store method path) ∧
      Shows (e.run os).store ((e.run os).ask "GET" "/metrics").2.1.body := by
  refine ⟨e.store_run os, (e.run os).ask_eq, ?_⟩
  rw [Exporter.ask_eq]
  exact shows_body (e.run os).store

end CertRotation.Metrics
