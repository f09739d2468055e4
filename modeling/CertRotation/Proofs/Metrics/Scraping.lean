/-
# `Proofs.Metrics.Scraping` — what scrapes promise when they overlap

The validity gauges belong to the exporter, and nothing is locked between clearing and gathering
them.  So of what a lone scrape promises, an overlapping one keeps

    no sample but of a leaf that was held, no labels twice     always
    at most one sample of either bound, both of one leaf       if no other scrape sets a bound
    a sample of either bound, if a leaf was held throughout    if no other scrape clears a bound

while it is in progress (`overlapping_scrape`).  Neither condition can be dropped: a clear between
set and gather loses a bound although nothing was installed (`lost_bound`), and a scrape that read
before an install and sets after it adds a leaf that is no longer held (`former_leaf`).

The first line is an invariant of the gauges and of every scrape (`traceable_run`), and allows for
two samples only where two leaves were held (`Traceable.length_le_one`).  The other two follow one
scrape from stage to stage, by one induction (`stage_run`).
-/
import CertRotation.Metrics.Scraping
import CertRotation.Proofs.Conversation
import Mathlib.Data.List.Induction

namespace CertRotation.Metrics.Scraping

open X509 (Description)

/-! ## What a step can do -/

/-- Everything that a step can make of a state. -/
inductive Transition (s : State) : Move → State → Prop
  | install (i : Identity) : Transition s (.install i) { s with store := (s.store.install i).1 }
  | absent {n : Nat} : s.scrapes[n]? = none → Transition s (.scrape n) s
  | scrape {n : Nat} {x : Scrape} : s.scrapes[n]? = some x →
      Transition s (.scrape n)
        { s with
          gauges := (advance s.gauges s.store x).1
          scrapes := s.scrapes.set n (advance s.gauges s.store x).2 }

theorem step_transition (s : State) (m : Move) : Transition s m (s.step m) := by
  cases m with
  | install i => exact .install i
  | scrape n =>
      cases hx : s.scrapes[n]? with
      | none =>
          rw [State.step, hx]
          exact .absent hx
      | some x =>
          rw [State.step, hx]
          exact .scrape hx

/-! ## The course of a run -/

/-- The steps of a run, each with the state that it is taken in. -/
def State.steps (s : State) : List Move → List (State × Move)
  | [] => []
  | m :: ms => (s, m) :: (s.step m).steps ms

theorem run_concat (s : State) (ms : List Move) (m : Move) :
    s.run (ms ++ [m]) = (s.run ms).step m := by
  rw [State.run, List.foldl_append]
  rfl

theorem steps_concat (s : State) (ms : List Move) (m : Move) :
    s.steps (ms ++ [m]) = s.steps ms ++ [(s.run ms, m)] := by
  induction ms generalizing s with
  | nil => rfl
  | cons m' ms ih =>
      rw [List.cons_append, State.steps, ih]
      rfl

theorem mem_steps_concat_of_mem {s : State} {ms : List Move} {p : State × Move} (m : Move)
    (h : p ∈ s.steps ms) : p ∈ s.steps (ms ++ [m]) := by
  rw [steps_concat]
  exact List.mem_append_left _ h

theorem last_mem_steps (s : State) (ms : List Move) (m : Move) :
    (s.run ms, m) ∈ s.steps (ms ++ [m]) := by
  rw [steps_concat]
  exact List.mem_append_right _ (List.mem_singleton_self _)

def Move.isScrape : Move → Bool
  | .scrape _ => true
  | .install _ => false

theorem store_step_scrape (s : State) (n : Nat) : (s.step (.scrape n)).store = s.store := by
  have hstep := step_transition s (.scrape n)
  generalize s.step (.scrape n) = s' at hstep ⊢
  cases hstep <;> rfl

/-- Scrapes only read the store. -/
theorem store_of_mem_steps {s : State} {ms : List Move} {p : State × Move}
    (hms : ∀ m ∈ ms, m.isScrape = true) (h : p ∈ s.steps ms) : p.1.store = s.store := by
  induction ms generalizing s with
  | nil => exact absurd h List.not_mem_nil
  | cons m ms ih =>
      obtain ⟨hm, hms⟩ := List.forall_mem_cons.mp hms
      rcases List.mem_cons.mp h with rfl | h
      · rfl
      · rw [ih hms h]
        cases m with
        | install i => exact Bool.noConfusion hm
        | scrape n => exact store_step_scrape s n

/-- The first step has been taken and the last has not. -/
def Scrape.inProgress : Scrape → Bool
  | .clearNotBefore | .done _ => false
  | _ => true

/-- The next step clears a bound. -/
def Scrape.clears : Scrape → Bool
  | .clearNotBefore | .clearNotAfter => true
  | _ => false

/-- The next step sets a bound. -/
def Scrape.sets : Scrape → Bool
  | .setNotBefore _ | .setNotAfter _ => true
  | _ => false

def State.inProgress (s : State) (n : Nat) : Bool :=
  s.scrapes[n]?.any Scrape.inProgress

theorem inProgress_eq {s : State} {n : Nat} {x : Scrape} (h : s.scrapes[n]? = some x) :
    s.inProgress n = x.inProgress := by
  rw [State.inProgress, h, Option.any_some]

/-- A step of this kind, and of another scrape than `n`. -/
def Move.isOther (kind : Scrape → Bool) (n : Nat) (s : State) : Move → Bool
  | .install _ => false
  | .scrape k => k != n && s.scrapes[k]?.any kind

section
variable (start : State) (ms : List Move)

/-- While a scrape is in progress, no other one takes a step of this kind. -/
def Spared (kind : Scrape → Bool) (n : Nat) : Prop :=
  ∀ p ∈ start.steps ms, p.1.inProgress n = true → p.2.isOther kind n p.1 = false

/-- The leaf was held at some moment. -/
def Held (d : Description) : Prop :=
  ∃ p ∈ start.steps ms, leaf? p.1.store = some d

/-- The leaf was held at some moment between a scrape's first step and its last. -/
def HeldDuring (n : Nat) (d : Description) : Prop :=
  ∃ p ∈ start.steps ms, p.1.inProgress n = true ∧ leaf? p.1.store = some d

/-- At every moment between a scrape's first step and its last, some leaf was held. -/
def HeldThroughout (n : Nat) : Prop :=
  ∀ p ∈ start.steps ms, p.1.inProgress n = true → (leaf? p.1.store).isSome

end

section
variable {start : State} {ms : List Move} {n : Nat} {d : Description} {kind : Scrape → Bool}

theorem Held.concat (h : Held start ms d) (m : Move) : Held start (ms ++ [m]) d := by
  obtain ⟨p, hp, hd⟩ := h
  exact ⟨p, mem_steps_concat_of_mem m hp, hd⟩

theorem HeldDuring.concat (h : HeldDuring start ms n d) (m : Move) :
    HeldDuring start (ms ++ [m]) n d := by
  obtain ⟨p, hp, hn, hd⟩ := h
  exact ⟨p, mem_steps_concat_of_mem m hp, hn, hd⟩

theorem HeldThroughout.of_concat {m : Move} (h : HeldThroughout start (ms ++ [m]) n) :
    HeldThroughout start ms n :=
  fun p hp => h p (mem_steps_concat_of_mem m hp)

theorem Spared.of_concat {m : Move} (h : Spared start (ms ++ [m]) kind n) :
    Spared start ms kind n :=
  fun p hp => h p (mem_steps_concat_of_mem m hp)

end

/-! ## Samples -/

/-- The sample of one bound of a leaf. -/
def bound (value : Description → Int) (d : Description) : Sample :=
  ⟨labels d, value d⟩

/-- The samples of both bounds. -/
structure Bounds where
  notBefore : List Sample
  notAfter : List Sample

/-- The bounds that the gauges hold. -/
def bounds (g : Gauges) : Bounds :=
  ⟨g.notBefore, g.notAfter⟩

/-- The bounds that a response reports. -/
def reported (response : List Family) : Bounds :=
  let under (name : String) := (response.filter (·.name = name)).flatMap (·.samples)
  ⟨under notBeforeName, under notAfterName⟩

theorem reported_families (g : Gauges) : reported g.families = bounds g := by
  have hgeneration : generationName ≠ notBeforeName ∧ generationName ≠ notAfterName := by decide
  have hbounds : notBeforeName ≠ notAfterName := by decide
  simp [reported, bounds, Gauges.families, hgeneration, hbounds, hbounds.symm]

theorem setSample_ne_nil (ss : List Sample) (s : Sample) : setSample ss s ≠ [] :=
  List.append_ne_nil_of_right_ne_nil _ (List.cons_ne_nil _ _)

theorem mem_setSample {ss : List Sample} {s x : Sample} (h : x ∈ setSample ss s) :
    x ∈ ss ∨ x = s := by
  rcases List.mem_append.mp h with h | h
  · exact .inl (List.mem_filter.mp h).1
  · exact .inr (List.mem_singleton.mp h)

theorem nodup_setSample {ss : List Sample} (h : (ss.map (·.labels)).Nodup) (s : Sample) :
    ((setSample ss s).map (·.labels)).Nodup := by
  rw [setSample, List.map_append, List.map_singleton]
  refine List.nodup_append.mpr
    ⟨h.sublist (List.filter_sublist.map _), List.pairwise_singleton _ _, ?_⟩
  intro l hl l' hl'
  obtain ⟨x, hx, rfl⟩ := List.mem_map.mp hl
  rw [List.mem_singleton.mp hl']
  exact of_decide_eq_true (List.mem_filter.mp hx).2

/-- A step that sets no bound can only take samples away. -/
theorem advance_sublist {g : Gauges} {store : CredentialStore} {x : Scrape}
    (h : x.sets = false) :
    (advance g store x).1.notBefore.Sublist g.notBefore ∧
      (advance g store x).1.notAfter.Sublist g.notAfter := by
  cases x with
  | clearNotBefore => exact ⟨List.nil_sublist _, List.Sublist.refl _⟩
  | clearNotAfter => exact ⟨List.Sublist.refl _, List.nil_sublist _⟩
  | readIdentity =>
      rw [advance]
      cases leaf? store <;> exact ⟨List.Sublist.refl _, List.Sublist.refl _⟩
  | setNotBefore d => exact Bool.noConfusion h
  | setNotAfter d => exact Bool.noConfusion h
  | setGeneration | gather | done => exact ⟨List.Sublist.refl _, List.Sublist.refl _⟩

/-- A step that clears no bound leaves a sample where there is one. -/
theorem advance_ne_nil {g : Gauges} {store : CredentialStore} {x : Scrape}
    (h : x.clears = false) :
    (g.notBefore ≠ [] → (advance g store x).1.notBefore ≠ []) ∧
      (g.notAfter ≠ [] → (advance g store x).1.notAfter ≠ []) := by
  cases x with
  | clearNotBefore => exact Bool.noConfusion h
  | clearNotAfter => exact Bool.noConfusion h
  | readIdentity =>
      rw [advance]
      cases leaf? store <;> exact ⟨id, id⟩
  | setNotBefore d => exact ⟨fun _ => setSample_ne_nil _ _, id⟩
  | setNotAfter d => exact ⟨id, fun _ => setSample_ne_nil _ _⟩
  | setGeneration | gather | done => exact ⟨id, id⟩

/-! ## In every run: samples of leaves that were held -/

/-- Samples of leaves that were held, no two with the same labels. -/
structure Traceable (start : State) (ms : List Move) (value : Description → Int)
    (ss : List Sample) : Prop where
  held : ∀ x ∈ ss, ∃ d, Held start ms d ∧ x = bound value d
  nodup : (ss.map (·.labels)).Nodup

/-- The same of both bounds. -/
structure TraceableBounds (start : State) (ms : List Move) (b : Bounds) : Prop where
  notBefore : Traceable start ms Description.notBefore b.notBefore
  notAfter : Traceable start ms Description.notAfter b.notAfter

/-- What a scrape is about to set, and what it has gathered. -/
def TraceableScrape (start : State) (ms : List Move) : Scrape → Prop
  | .setNotBefore d | .setNotAfter d => Held start ms d
  | .done response => TraceableBounds start ms (reported response)
  | _ => True

section
variable {start : State} {ms : List Move} {value : Description → Int} {ss : List Sample}

theorem traceable_nil : Traceable start ms value [] :=
  ⟨fun _ h => absurd h List.not_mem_nil, List.nodup_nil⟩

theorem Traceable.set {d : Description} (h : Traceable start ms value ss)
    (hd : Held start ms d) : Traceable start ms value (setSample ss (bound value d)) := by
  refine ⟨?_, nodup_setSample h.nodup _⟩
  intro x hx
  rcases mem_setSample hx with hx | rfl
  · exact h.held x hx
  · exact ⟨d, hd, rfl⟩

theorem Traceable.concat (h : Traceable start ms value ss) (m : Move) :
    Traceable start (ms ++ [m]) value ss := by
  refine ⟨?_, h.nodup⟩
  intro x hx
  obtain ⟨d, hd, rfl⟩ := h.held x hx
  exact ⟨d, hd.concat m, rfl⟩

/-- While only one leaf is ever held, there is at most one sample. -/
theorem Traceable.length_le_one (h : Traceable start ms value ss)
    (hone : ∀ d e, Held start ms d → Held start ms e → d = e) : ss.length ≤ 1 := by
  rcases ss with - | ⟨x, - | ⟨y, ss⟩⟩
  · exact Nat.zero_le 1
  · exact Nat.le_refl 1
  · obtain ⟨d, hd, rfl⟩ := h.held x List.mem_cons_self
    obtain ⟨e, he, rfl⟩ := h.held y (List.mem_cons_of_mem _ List.mem_cons_self)
    have hnodup := h.nodup
    rw [hone d e hd he] at hnodup
    exact absurd List.mem_cons_self (List.nodup_cons.mp hnodup).1

theorem TraceableBounds.concat {b : Bounds} (h : TraceableBounds start ms b) (m : Move) :
    TraceableBounds start (ms ++ [m]) b :=
  ⟨h.notBefore.concat m, h.notAfter.concat m⟩

theorem TraceableScrape.concat {x : Scrape} (h : TraceableScrape start ms x) (m : Move) :
    TraceableScrape start (ms ++ [m]) x := by
  cases x with
  | setNotBefore d => exact Held.concat h m
  | setNotAfter d => exact Held.concat h m
  | done response => exact TraceableBounds.concat h m
  | _ => trivial

/-- A step of a scrape keeps both traceable, as long as the leaf in the store counts as held. -/
theorem traceable_advance {g : Gauges} {store : CredentialStore} {x : Scrape}
    (hstore : ∀ d, leaf? store = some d → Held start ms d)
    (hg : TraceableBounds start ms (bounds g)) (hx : TraceableScrape start ms x) :
    TraceableBounds start ms (bounds (advance g store x).1) ∧
      TraceableScrape start ms (advance g store x).2 := by
  cases x with
  | clearNotBefore => exact ⟨⟨traceable_nil, hg.notAfter⟩, trivial⟩
  | clearNotAfter => exact ⟨⟨hg.notBefore, traceable_nil⟩, trivial⟩
  | setGeneration => exact ⟨hg, trivial⟩
  | readIdentity =>
      rw [advance]
      cases hd : leaf? store with
      | none => exact ⟨hg, trivial⟩
      | some d => exact ⟨hg, hstore d hd⟩
  | setNotBefore d => exact ⟨⟨hg.notBefore.set hx, hg.notAfter⟩, hx⟩
  | setNotAfter d => exact ⟨⟨hg.notBefore, hg.notAfter.set hx⟩, trivial⟩
  | gather =>
      rw [← reported_families] at hg
      exact ⟨by rwa [reported_families] at hg, hg⟩
  | done response => exact ⟨hg, hx⟩

end

theorem traceable_run (store : CredentialStore) (scrapes : Nat) (ms : List Move) :
    TraceableBounds (State.initial store scrapes) ms
        (bounds ((State.initial store scrapes).run ms).gauges) ∧
      ∀ x ∈ ((State.initial store scrapes).run ms).scrapes,
        TraceableScrape (State.initial store scrapes) ms x := by
  induction ms using List.reverseRecOn with
  | nil =>
      refine ⟨⟨traceable_nil, traceable_nil⟩, ?_⟩
      intro x hx
      rw [List.eq_of_mem_replicate hx]
      trivial
  | append_singleton ms m ih =>
      have hg := ih.1.concat m
      have hxs := fun x hx => (ih.2 x hx).concat m
      have hlast := last_mem_steps (State.initial store scrapes) ms m
      rw [run_concat]
      generalize (State.initial store scrapes).run ms = s at hg hxs hlast ⊢
      have hstep := step_transition s m
      generalize s.step m = s' at hstep ⊢
      cases hstep with
      | install i => exact ⟨hg, hxs⟩
      | absent hnone => exact ⟨hg, hxs⟩
      | scrape hx =>
          have hnext := traceable_advance (fun d hd => ⟨_, hlast, hd⟩) hg
            (hxs _ (List.mem_of_getElem? hx))
          refine ⟨hnext.1, ?_⟩
          intro y hy
          rcases List.mem_or_eq_of_mem_set hy with hy | rfl
          · exact hxs y hy
          · exact hnext.2

/-! ## One scrape, from stage to stage -/

/-- What holds of a scrape's stage and the gauges holds in every run in which the scrape is spared,
if its own steps keep it, and steps of others that it is not spared keep it. -/
theorem stage_run {start : State} {n : Nat} {kind : Scrape → Bool}
    {P : List Move → Gauges → Scrape → Prop}
    (hbegin : ∀ x, start.scrapes[n]? = some x → P [] start.gauges x)
    (hconcat : ∀ ms m g x, P ms g x → P (ms ++ [m]) g x)
    (hown : ∀ ms x, (start.run ms).scrapes[n]? = some x →
      P ms (start.run ms).gauges x →
        P (ms ++ [.scrape n]) (advance (start.run ms).gauges (start.run ms).store x).1
          (advance (start.run ms).gauges (start.run ms).store x).2)
    (hother : ∀ ms g store x y, (x.inProgress = true → kind y = false) → P ms g x →
      P ms (advance g store y).1 x)
    {ms : List Move} (hspared : Spared start ms kind n) {x : Scrape}
    (hx : (start.run ms).scrapes[n]? = some x) : P ms (start.run ms).gauges x := by
  induction ms using List.reverseRecOn generalizing x with
  | nil => exact hbegin x hx
  | append_singleton ms m ih =>
      have hlast := last_mem_steps start ms m
      have hbefore := fun y => ih (x := y) hspared.of_concat
      have hnext := hown ms
      rw [run_concat] at hx ⊢
      generalize start.run ms = s at hlast hbefore hnext hx ⊢
      have hstep := step_transition s m
      generalize s.step m = s' at hstep hx ⊢
      cases hstep with
      | install i => exact hconcat ms _ _ x (hbefore x hx)
      | absent hnone => exact hconcat ms _ _ x (hbefore x hx)
      | @scrape k y hy =>
          by_cases hk : k = n
          · subst hk
            have hlt : k < s.scrapes.length := (List.getElem?_eq_some_iff.mp hy).1
            rw [List.getElem?_set_self hlt] at hx
            rw [← Option.some.inj hx]
            exact hnext y hy (hbefore y hy)
          · rw [List.getElem?_set_ne hk] at hx
            refine hother _ _ _ x y ?_ (hconcat ms _ _ x (hbefore x hx))
            intro hprogress
            rw [← inProgress_eq hx] at hprogress
            have hquiet := hspared _ hlast hprogress
            simpa [Move.isOther, hk, hy] using hquiet

/-! ### At most one sample of either bound -/

/-- At most one sample of either bound, and both of one leaf that was held while the scrape was in
progress. -/
structure OfOneLeaf (start : State) (ms : List Move) (n : Nat) (b : Bounds) : Prop where
  notBefore_le_one : b.notBefore.length ≤ 1
  notAfter_le_one : b.notAfter.length ≤ 1
  same_leaf : b.notBefore ≠ [] ∨ b.notAfter ≠ [] →
    ∃ d, HeldDuring start ms n d ∧ (∀ x ∈ b.notBefore, x = bound Description.notBefore d) ∧
      ∀ x ∈ b.notAfter, x = bound Description.notAfter d

/-- The gauges as a scrape finds them before each of its steps, if no other one sets them. -/
def OwnOnly (start : State) (n : Nat) (ms : List Move) (g : Gauges) : Scrape → Prop
  | .clearNotBefore => True
  | .clearNotAfter => g.notBefore = []
  | .setGeneration | .readIdentity => g.notBefore = [] ∧ g.notAfter = []
  | .setNotBefore d => (g.notBefore = [] ∧ g.notAfter = []) ∧ HeldDuring start ms n d
  | .setNotAfter d =>
    (g.notBefore.Sublist [bound Description.notBefore d] ∧ g.notAfter = []) ∧
      HeldDuring start ms n d
  | .gather => OfOneLeaf start ms n (bounds g)
  | .done response => OfOneLeaf start ms n (reported response)

section
variable {start : State} {ms : List Move} {n : Nat} {b : Bounds} {g : Gauges} {x : Scrape}

theorem ofOneLeaf_of_sublist {d : Description} (hd : HeldDuring start ms n d)
    (hbefore : b.notBefore.Sublist [bound Description.notBefore d])
    (hafter : b.notAfter.Sublist [bound Description.notAfter d]) : OfOneLeaf start ms n b where
  notBefore_le_one := hbefore.length_le
  notAfter_le_one := hafter.length_le
  same_leaf _ :=
    ⟨d, hd, fun _ hx => List.mem_singleton.mp (hbefore.subset hx),
      fun _ hx => List.mem_singleton.mp (hafter.subset hx)⟩

theorem OfOneLeaf.sublist {c : Bounds} (h : OfOneLeaf start ms n b)
    (hbefore : c.notBefore.Sublist b.notBefore) (hafter : c.notAfter.Sublist b.notAfter) :
    OfOneLeaf start ms n c where
  notBefore_le_one := hbefore.length_le.trans h.notBefore_le_one
  notAfter_le_one := hafter.length_le.trans h.notAfter_le_one
  same_leaf hne := by
    obtain ⟨d, hd, hb, ha⟩ := h.same_leaf <| hne.imp
      (fun hc hb => hc (List.eq_nil_of_sublist_nil (hb ▸ hbefore)))
      (fun hc ha => hc (List.eq_nil_of_sublist_nil (ha ▸ hafter)))
    exact ⟨d, hd, fun x hx => hb x (hbefore.subset hx), fun x hx => ha x (hafter.subset hx)⟩

theorem OfOneLeaf.concat (h : OfOneLeaf start ms n b) (m : Move) :
    OfOneLeaf start (ms ++ [m]) n b where
  notBefore_le_one := h.notBefore_le_one
  notAfter_le_one := h.notAfter_le_one
  same_leaf hne := by
    obtain ⟨d, hd, hall⟩ := h.same_leaf hne
    exact ⟨d, hd.concat m, hall⟩

theorem OwnOnly.concat (h : OwnOnly start n ms g x) (m : Move) :
    OwnOnly start n (ms ++ [m]) g x := by
  cases x with
  | setNotBefore d => exact ⟨h.1, h.2.concat m⟩
  | setNotAfter d => exact ⟨h.1, h.2.concat m⟩
  | gather => exact OfOneLeaf.concat h m
  | done response => exact OfOneLeaf.concat h m
  | _ => exact h

/-- The scrape's own steps lead from each stage to the next. -/
theorem OwnOnly.own (hx : (start.run ms).scrapes[n]? = some x)
    (h : OwnOnly start n ms (start.run ms).gauges x) :
    OwnOnly start n (ms ++ [.scrape n]) (advance (start.run ms).gauges (start.run ms).store x).1
      (advance (start.run ms).gauges (start.run ms).store x).2 := by
  have hlast := last_mem_steps start ms (.scrape n)
  have hprogress := inProgress_eq hx
  replace h := h.concat (.scrape n)
  generalize start.run ms = s at h hlast hprogress ⊢
  cases x with
  | clearNotBefore => exact rfl
  | clearNotAfter => exact ⟨h, rfl⟩
  | setGeneration => exact h
  | readIdentity =>
      rw [advance]
      cases hd : leaf? s.store with
      | none =>
          have hempty : (bounds s.gauges).notBefore = [] ∧ (bounds s.gauges).notAfter = [] := h
          exact ⟨by simp [hempty], by simp [hempty], by simp [hempty]⟩
      | some d => exact ⟨h, _, hlast, hprogress, hd⟩
  | setNotBefore d =>
      obtain ⟨⟨hbefore, hafter⟩, hd⟩ := h
      refine ⟨⟨?_, hafter⟩, hd⟩
      rw [advance, hbefore]
      exact List.Sublist.refl _
  | setNotAfter d =>
      obtain ⟨⟨hbefore, hafter⟩, hd⟩ := h
      refine ofOneLeaf_of_sublist hd hbefore ?_
      rw [advance, bounds, hafter]
      exact List.Sublist.refl _
  | gather =>
      rw [advance, OwnOnly, reported_families]
      exact h
  | done response => exact h

theorem OwnOnly.sublist {f : Gauges} (h : OwnOnly start n ms g x)
    (hbefore : f.notBefore.Sublist g.notBefore) (hafter : f.notAfter.Sublist g.notAfter) :
    OwnOnly start n ms f x := by
  have hnone (hg : g.notBefore = [] ∧ g.notAfter = []) : f.notBefore = [] ∧ f.notAfter = [] :=
    ⟨List.eq_nil_of_sublist_nil (hg.1 ▸ hbefore), List.eq_nil_of_sublist_nil (hg.2 ▸ hafter)⟩
  cases x with
  | clearNotBefore => trivial
  | clearNotAfter => exact List.eq_nil_of_sublist_nil (h ▸ hbefore)
  | setGeneration => exact hnone h
  | readIdentity => exact hnone h
  | setNotBefore d => exact ⟨hnone h.1, h.2⟩
  | setNotAfter d =>
      exact ⟨⟨hbefore.trans h.1.1, List.eq_nil_of_sublist_nil (h.1.2 ▸ hafter)⟩, h.2⟩
  | gather => exact OfOneLeaf.sublist h hbefore hafter
  | done response => exact h

/-- Others that set nothing can only take samples away. -/
theorem OwnOnly.other {store : CredentialStore} {y : Scrape}
    (hy : x.inProgress = true → y.sets = false) (h : OwnOnly start n ms g x) :
    OwnOnly start n ms (advance g store y).1 x := by
  cases hprogress : x.inProgress with
  | true =>
      have hsub := @advance_sublist g store y (hy hprogress)
      exact h.sublist hsub.1 hsub.2
  | false =>
      -- Neither before its first step nor after its last does a scrape depend on the gauges.
      cases x with
      | clearNotBefore => trivial
      | done response => exact h
      | _ => exact Bool.noConfusion hprogress

end

/-! ### A sample of either bound -/

/-- A sample of either bound, if a leaf was held all the while. -/
def Complete (start : State) (ms : List Move) (n : Nat) (b : Bounds) : Prop :=
  HeldThroughout start ms n → b.notBefore ≠ [] ∧ b.notAfter ≠ []

/-- The gauges as a scrape finds them before each of its steps, if no other one clears them. -/
def Filled (start : State) (n : Nat) (ms : List Move) (g : Gauges) : Scrape → Prop
  | .setNotAfter _ => g.notBefore ≠ []
  | .gather => Complete start ms n (bounds g)
  | .done response => Complete start ms n (reported response)
  | _ => True

section
variable {start : State} {ms : List Move} {n : Nat} {g : Gauges} {x : Scrape}

theorem Filled.concat (h : Filled start n ms g x) (m : Move) :
    Filled start n (ms ++ [m]) g x := by
  cases x with
  | gather => exact fun hheld => h hheld.of_concat
  | done response => exact fun hheld => h hheld.of_concat
  | _ => exact h

theorem Filled.own (hx : (start.run ms).scrapes[n]? = some x)
    (h : Filled start n ms (start.run ms).gauges x) :
    Filled start n (ms ++ [.scrape n]) (advance (start.run ms).gauges (start.run ms).store x).1
      (advance (start.run ms).gauges (start.run ms).store x).2 := by
  have hlast := last_mem_steps start ms (.scrape n)
  have hprogress := inProgress_eq hx
  replace h := h.concat (.scrape n)
  generalize start.run ms = s at h hlast hprogress ⊢
  cases x with
  | readIdentity =>
      rw [advance]
      cases hd : leaf? s.store with
      | none =>
          intro hheld
          have hsome := hheld _ hlast hprogress
          rw [hd] at hsome
          exact Bool.noConfusion hsome
      | some d => trivial
  | setNotBefore d => exact setSample_ne_nil _ _
  | setNotAfter d => exact fun _ => ⟨h, setSample_ne_nil _ _⟩
  | gather =>
      rw [advance, Filled, reported_families]
      exact h
  | done response => exact h
  | _ => trivial

theorem Filled.other {store : CredentialStore} {y : Scrape}
    (hy : x.inProgress = true → y.clears = false) (h : Filled start n ms g x) :
    Filled start n ms (advance g store y).1 x := by
  cases x with
  | setNotAfter d => exact (advance_ne_nil (hy rfl)).1 h
  | gather =>
      intro hheld
      have hkept := @advance_ne_nil g store y (hy rfl)
      exact ⟨hkept.1 (h hheld).1, hkept.2 (h hheld).2⟩
  | done response => exact h
  | _ => trivial

end

/-! ## Overlapping scrapes -/

theorem scrapes_initial {store : CredentialStore} {scrapes n : Nat} {x : Scrape}
    (h : (State.initial store scrapes).scrapes[n]? = some x) : x = .clearNotBefore :=
  List.eq_of_mem_replicate (List.mem_of_getElem? h)

/-- What holds of every response, whatever other scrapes and installs fall between the steps of the
scrape that gave it:

- every sample is that of a leaf that was held at some moment of the run, and no two of one bound
  have the same labels;
- if no other scrape sets a bound while this one is in progress, there is at most one sample of
  either bound, and both are of one leaf that was held meanwhile;
- if no other scrape clears a bound while this one is in progress, and a leaf was held all the
  while, there is a sample of either bound. -/
theorem overlapping_scrape (store : CredentialStore) (scrapes : Nat) (ms : List Move) {n : Nat}
    {response : List Family}
    (h : ((State.initial store scrapes).run ms).scrapes[n]? = some (.done response)) :
    TraceableBounds (State.initial store scrapes) ms (reported response) ∧
      (Spared (State.initial store scrapes) ms Scrape.sets n →
        OfOneLeaf (State.initial store scrapes) ms n (reported response)) ∧
      (Spared (State.initial store scrapes) ms Scrape.clears n →
        Complete (State.initial store scrapes) ms n (reported response)) := by
  refine ⟨(traceable_run store scrapes ms).2 _ (List.mem_of_getElem? h), ?_, ?_⟩
  · intro hspared
    refine stage_run (P := OwnOnly (State.initial store scrapes) n) ?_ ?_ ?_ ?_ hspared h
    · intro x hx
      rw [scrapes_initial hx]
      trivial
    · exact fun ms m g x hx => hx.concat m
    · exact fun ms x hx => OwnOnly.own hx
    · exact fun ms g store x y hy => OwnOnly.other hy
  · intro hspared
    refine stage_run (P := Filled (State.initial store scrapes) n) ?_ ?_ ?_ ?_ hspared h
    · intro x hx
      rw [scrapes_initial hx]
      trivial
    · exact fun ms m g x hx => hx.concat m
    · exact fun ms x hx => Filled.own hx
    · exact fun ms g store x y hy => Filled.other hy

/-! ### A scrape that is spared -/

/-- The second scrape clears the bounds before the first begins, and sets nothing before it ends. -/
def sparing : List Move :=
  [.scrape 1, .scrape 1, .scrape 0, .scrape 0, .scrape 0, .scrape 1, .scrape 0,
    .install Conversation.localhostIdentity, .scrape 0, .scrape 1, .scrape 0, .scrape 0]

theorem localhost_described : (leaf? Conversation.localhostStore).isSome = true := by
  decide +kernel

theorem overlapping_scrape_localhost :
    ∃ response, ((State.initial Conversation.localhostStore 2).run sparing).scrapes[0]? =
        some (.done response) ∧
      OfOneLeaf (State.initial Conversation.localhostStore 2) sparing 0 (reported response) ∧
      (reported response).notBefore ≠ [] ∧ (reported response).notAfter ≠ [] := by
  obtain ⟨d, hd⟩ := Option.isSome_iff_exists.mp localhost_described
  obtain ⟨response, hdone⟩ : ∃ response,
      ((State.initial Conversation.localhostStore 2).run sparing).scrapes[0]? =
        some (.done response) := by
    simp [State.initial, State.run, sparing, State.step, advance, hd]
  have hsets : Spared (State.initial Conversation.localhostStore 2) sparing Scrape.sets 0 := by
    unfold Spared
    decide +kernel
  have hclears : Spared (State.initial Conversation.localhostStore 2) sparing Scrape.clears 0 := by
    unfold Spared
    decide +kernel
  have hheld : HeldThroughout (State.initial Conversation.localhostStore 2) sparing 0 := by
    unfold HeldThroughout
    decide +kernel
  obtain ⟨-, hone, hcomplete⟩ := overlapping_scrape _ _ _ hdone
  exact ⟨response, hdone, hone hsets, hcomplete hclears hheld⟩

/-! ### Scrapes that are not -/

/-- The second scrape begins when the first has set one bound. -/
def cuttingIn : List Move :=
  [.scrape 0, .scrape 0, .scrape 0, .scrape 0, .scrape 0, .scrape 1, .scrape 0, .scrape 0]

/-- Whatever leaf is held, and though nothing is installed: the first scrape does not find the bound
that it has set. -/
theorem lost_bound {store : CredentialStore} {d : Description} (h : leaf? store = some d) :
    ∃ response, ((State.initial store 2).run cuttingIn).scrapes[0]? = some (.done response) ∧
      (reported response).notBefore = [] ∧
      (reported response).notAfter = [bound Description.notAfter d] := by
  simp [State.initial, State.run, cuttingIn, State.step, advance, h, reported_families, bounds,
    bound, setSample_nil]

/-- The first scrape reads before an install and sets its bounds after it, while the second one is
in progress. -/
def overtaken (i : Identity) : List Move :=
  [.scrape 0, .scrape 0, .scrape 0, .scrape 0, .install i, .scrape 1, .scrape 1, .scrape 1,
    .scrape 1, .scrape 0, .scrape 0, .scrape 1, .scrape 1, .scrape 1]

/-- Whatever leaves come one after the other, unless they have the same labels: the second scrape
finds both, the former one as well. -/
theorem former_leaf {store : CredentialStore} {i : Identity} {d e : Description}
    (h : leaf? store = some d) (hi : i.description? = some e) (hlabels : labels d ≠ labels e) :
    ∃ response, ((State.initial store 2).run (overtaken i)).scrapes[1]? = some (.done response) ∧
      (reported response).notBefore =
        [bound Description.notBefore d, bound Description.notBefore e] ∧
      (reported response).notAfter =
        [bound Description.notAfter d, bound Description.notAfter e] := by
  have hinstalled : leaf? (store.install i).1 = some e := by
    rw [leaf?, CredentialStore.install_current]
    exact hi
  simp [State.initial, State.run, overtaken, State.step, advance, h, hinstalled, reported_families,
    bounds, bound, setSample, hlabels]

/-- So overlapping scrapes do disturb each other, also without an install. -/
theorem scrapes_disturb_each_other :
    ¬ ∀ (store : CredentialStore) (scrapes : Nat) (ms : List Move) (n : Nat)
        (response : List Family),
        ((State.initial store scrapes).run ms).scrapes[n]? = some (.done response) →
          OfOneLeaf (State.initial store scrapes) ms n (reported response) ∧
            Complete (State.initial store scrapes) ms n (reported response) := by
  intro hall
  obtain ⟨d, hd⟩ := Option.isSome_iff_exists.mp localhost_described
  obtain ⟨response, hdone, hlost, -⟩ := lost_bound hd
  have hheld : HeldThroughout (State.initial Conversation.localhostStore 2) cuttingIn 0 := by
    intro p hp _
    rw [store_of_mem_steps (by decide) hp]
    exact localhost_described
  exact ((hall _ _ _ _ _ hdone).2 hheld).1 hlost

end CertRotation.Metrics.Scraping
