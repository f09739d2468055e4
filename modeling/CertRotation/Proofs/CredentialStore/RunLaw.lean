/-
# `Proofs.CredentialStore.RunLaw` — the store after any run

A run is followed by the list `is` of the identities installed so far.  `Records is s es` says
that the store `s` and the events `es` are what the list gives: the current identity is its last
one, the generation counts the positions that count, and there is one event for each position.

    records s es, install i   ⟹  records the list with i at its end    (`Records.install`)
    records s es, one moment  ⟹  records what the moment adds            (`Records.step`)
    records s es, any run     ⟹  records what the run adds               (`Records.steps`)

The generation and the current identity move independently, and only the list joins them: where
a chain is installed again with another key, the list grows and its last position does not count.
-/
import CertRotation.Proofs.CredentialStore.Install

namespace CertRotation.CredentialStore

/-! ## One more identity at the end of a list -/

/-- The positions before the last count as they did. -/
theorem counts_snoc_of_lt {is : List Identity} {k : Nat} (i : Identity) (h : k < is.length) :
    Counts (is ++ [i]) k ↔ Counts is k := by
  unfold Counts
  rw [List.getElem?_append_left h, List.getElem?_append_left (by omega)]

/-- The last position counts exactly if the chain is another than the one before. -/
theorem counts_snoc_length (is : List Identity) (i : Identity) :
    Counts (is ++ [i]) is.length ↔ changesChain is.getLast? i = true := by
  rcases List.eq_nil_or_concat is with rfl | ⟨js, j, rfl⟩
  · simp [Counts, changesChain]
  · rw [List.concat_eq_append]
    have hlast : (js ++ [j] ++ [i])[(js ++ [j]).length]? = some i := by simp
    have hbefore : (js ++ [j] ++ [i])[(js ++ [j]).length - 1]? = some j := by simp
    unfold Counts
    rw [hlast, hbefore]
    simp only [List.getLast?_concat, changesChain, Identity.sharesChain]
    simpa using not_congr eq_comm

theorem counted_snoc (is : List Identity) (i : Identity) :
    counted (is ++ [i]) =
      counted is ++ if changesChain is.getLast? i then [is.length] else [] := by
  have hold : (List.range is.length).filter (Counts (is ++ [i])) =
      (List.range is.length).filter (Counts is) :=
    List.filter_congr fun k hk =>
      decide_eq_decide.mpr (counts_snoc_of_lt i (List.mem_range.mp hk))
  unfold counted
  rw [List.length_append, List.length_singleton, List.range_succ, List.filter_append, hold,
    List.filter_cons, List.filter_nil]
  simp only [decide_eq_true_eq, counts_snoc_length]

theorem eventAt_snoc_of_lt {is : List Identity} {k : Nat} (i : Identity) (h : k < is.length) :
    eventAt (is ++ [i]) k = eventAt is k := by
  unfold eventAt
  rw [List.getElem?_append_left h]
  simp only [counts_snoc_of_lt i h]

theorem eventAt_snoc_length (is : List Identity) (i : Identity) :
    eventAt (is ++ [i]) is.length =
      if changesChain is.getLast? i then .loadedCertificate i.description?
      else .certificateUnchanged := by
  unfold eventAt
  rw [List.getElem?_concat_length]
  simp only [counts_snoc_length]
  rfl

/-! ## The invariant of a run -/

/-- The store and the events are those of a list of installs. -/
structure Records (is : List Identity) (s : CredentialStore) (es : List Event) : Prop where
  current : s.current = is.getLast?
  generation : s.generation = (counted is).length
  events : es = (List.range is.length).map (eventAt is)

namespace Records

variable {is : List Identity} {s : CredentialStore} {es : List Event}

theorem new (paths : IdentityPaths) : Records [] (CredentialStore.new paths) [] :=
  ⟨rfl, rfl, rfl⟩

theorem install (h : Records is s es) (i : Identity) :
    Records (is ++ [i]) (s.install i).1 (es ++ [(s.install i).2]) where
  current := by rw [install_current, List.getLast?_concat]
  generation := by
    rw [install_generation, h.generation, h.current, counted_snoc, List.length_append]
    split <;> rfl
  events := by
    have hold : (List.range is.length).map (eventAt (is ++ [i])) =
        (List.range is.length).map (eventAt is) :=
      List.map_congr_left fun k hk => eventAt_snoc_of_lt i (List.mem_range.mp hk)
    rw [install_event, h.events, h.current, List.length_append, List.length_singleton,
      List.range_succ, List.map_append, List.map_singleton, hold, eventAt_snoc_length]

end Records

/-! ## Steps and runs -/

namespace Audience

/-- An operation that fails changes nothing and reports nothing. -/
theorem step_of_error {a : Audience} {op : Operation} {e : LoadError}
    (h : op.attempt a.store = .error e) : a.step (.performed op) = (a, []) := by
  simp only [step, h]

/-- An operation that succeeds installs its identity. -/
theorem step_of_ok {a : Audience} {op : Operation} {i : Identity}
    (h : op.identity a.store.paths = .ok i) :
    a.step (.performed op) = ({ a with store := (a.store.install i).1 }, [(a.store.install i).2]) := by
  have : op.attempt a.store = .ok (a.store.install i) := by rw [Operation.attempt_eq, h]; rfl
  simp only [step, this]

@[simp] theorem step_paths (a : Audience) (m : Moment) :
    (a.step m).1.store.paths = a.store.paths := by
  cases m with
  | performed op =>
      cases h : op.identity a.store.paths with
      | error e => rw [step_of_error (by rw [Operation.attempt_eq, h]; rfl)]
      | ok i => rw [step_of_ok h]; exact install_paths a.store i
  | subscribed => rfl
  | looked n => rfl

theorem steps_cons (a : Audience) (m : Moment) (ms : List Moment) :
    a.steps (m :: ms) =
      (((a.step m).1.steps ms).1, (a.step m).2 ++ ((a.step m).1.steps ms).2) := rfl

theorem steps_append (a : Audience) (ms ms' : List Moment) :
    a.steps (ms ++ ms') =
      (((a.steps ms).1.steps ms').1, (a.steps ms).2 ++ ((a.steps ms).1.steps ms').2) := by
  induction ms generalizing a with
  | nil => rfl
  | cons m ms ih => rw [List.cons_append, steps_cons, ih, steps_cons, List.append_assoc]

/-- A failing operation might as well not have been tried, wherever it stands in a run. -/
theorem steps_of_error (a : Audience) {before after : List Moment} {op : Operation} {e : LoadError}
    (h : op.attempt (a.steps before).1.store = .error e) :
    a.steps (before ++ .performed op :: after) = a.steps (before ++ after) := by
  rw [steps_append, steps_append, steps_cons, step_of_error h, List.nil_append]

end Audience

namespace Records

variable {is : List Identity} {es : List Event}

/-- One moment adds what it installs, and nobody who watches changes that. -/
theorem step {a : Audience} (h : Records is a.store es) (m : Moment) :
    Records (is ++ (m.identity? a.store.paths).toList) (a.step m).1.store (es ++ (a.step m).2) := by
  cases m with
  | performed op =>
      cases hi : op.identity a.store.paths with
      | error e =>
          have hattempt : op.attempt a.store = .error e := by rw [Operation.attempt_eq, hi]; rfl
          rw [Audience.step_of_error hattempt]
          simpa [Moment.identity?, hi, Except.toOption] using h
      | ok i =>
          rw [Audience.step_of_ok hi]
          simpa [Moment.identity?, hi, Except.toOption] using h.install i
  | subscribed => simpa [Audience.step, Moment.identity?] using h
  | looked n => simpa [Audience.step, Moment.identity?] using h

theorem steps {a : Audience} (h : Records is a.store es) (ms : List Moment) :
    Records (is ++ installed a.store.paths ms) (a.steps ms).1.store (es ++ (a.steps ms).2) := by
  induction ms generalizing a is es with
  | nil => simpa [Audience.steps, installed] using h
  | cons m ms ih =>
      have hrest := ih (h.step m)
      rw [Audience.step_paths, List.append_assoc, List.append_assoc] at hrest
      have hinstalled : installed a.store.paths (m :: ms) =
          (m.identity? a.store.paths).toList ++ installed a.store.paths ms := by
        unfold installed
        cases hm : m.identity? a.store.paths <;> simp [hm]
      rw [Audience.steps_cons, hinstalled]
      exact hrest

end Records

/-! ## The run law -/

/-- A position that counts is reported as a loaded certificate, any other as an unchanged one. -/
theorem eventAt_reports (is : List Identity) (k : Nat) :
    (Counts is k →
      (eventAt is k).level = .info ∧ "Loaded certificate".toList <+: (eventAt is k).text.toList) ∧
    (¬ Counts is k →
      (eventAt is k).level = .debug ∧ (eventAt is k).text = "Certificate unchanged") := by
  constructor
  · intro h
    rw [eventAt, if_pos h]
    refine ⟨rfl, ?_⟩
    cases is[k]?.bind (·.description?) with
    | none => exact ⟨" (unparsable for display".toList, rfl⟩
    | some d =>
        refine ⟨": ".toList ++ d.write.toList, ?_⟩
        show _ = ("Loaded certificate: " ++ d.write).toList
        rw [String.toList_append, ← List.append_assoc]
        rfl
  · intro h
    rw [eventAt, if_neg h]
    exact ⟨rfl, rfl⟩

/-- After any run from a new store, before any audience: the current identity is the last one
installed, the generation is the number of installs that were first or changed the chain, the
resolver presents the current identity, and each install was reported once, by its kind.  An
operation that fails, wherever it stands in the run, might as well not have been tried. -/
theorem store_after_run (paths : IdentityPaths) (subscriptions : List Subscription) (ms : List Moment) :
    let start : Audience := ⟨new paths, subscriptions⟩
    let is := installed paths ms
    let store := (start.steps ms).1.store
    let events := (start.steps ms).2
    (store.current = none ↔ is = []) ∧
    store.current = is.getLast? ∧
    store.generation = (counted is).length ∧
    store.forServer.1 = is.getLast? ∧
    (store.hasIdentity = true ↔ is ≠ []) ∧
    events = (List.range is.length).map (eventAt is) ∧
    (∀ k, (Counts is k → (eventAt is k).level = .info ∧
        "Loaded certificate".toList <+: (eventAt is k).text.toList) ∧
      (¬ Counts is k → (eventAt is k).level = .debug ∧
        (eventAt is k).text = "Certificate unchanged")) ∧
    (∀ before op after e, op.attempt (start.steps before).1.store = .error e →
      start.steps (before ++ .performed op :: after) = start.steps (before ++ after)) := by
  intro start is store events
  have h : Records is store events := (Records.new paths).steps (a := start) ms
  have hempty : store.current = none ↔ is = [] := by rw [h.current, List.getLast?_eq_none_iff]
  have hserver : store.forServer.1 = store.current := by
    unfold forServer
    cases store.current <;> rfl
  refine ⟨hempty, h.current, h.generation, hserver.trans h.current, ?_, h.events,
    eventAt_reports is, ?_⟩
  · rw [hasIdentity, Option.isSome_iff_ne_none, Ne, hempty]
  · intro before op after e he
    exact start.steps_of_error he

end CertRotation.CredentialStore
