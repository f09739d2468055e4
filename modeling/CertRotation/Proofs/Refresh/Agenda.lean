/-
# `Proofs.Refresh.Agenda` — what a schedule is to do, without its loop

A schedule that starts at `start` with interval `p` has its ticks at `start + k * p` for `k ≥ 1`,
and a window of instants has the ticks in it (`due`).  An *agenda* lists who does what and when.
It is read off the steps alone (`Plan.run`): whatever the files hold and whatever becomes of a
reload, a window that passes while the schedule runs contributes the ticks due in it, and once the
schedule is cancelled nothing but one notice.  `replay` then carries an agenda out, with no loop, no
deadline and no flags.

**Proved here.**

    two windows side by side are one              (`due_append`, `Plan.advance_advance`)
    the reloads of an agenda without cancellation are those due before its frontier  (`reloads_run`)
    after a cancellation there are none           (`reloads_run_of_asked`)
    a replay checks exactly when the agenda reloads                                  (`checks_replay`)
-/
import CertRotation.Refresh
import CertRotation.Proofs.CredentialStore.Install

namespace CertRotation.Rotation

/-! ## Ticks -/

/-- Whether a schedule has a tick at an instant. -/
def isTick (start p t : Nat) : Bool :=
  start < t && (t - start) % p == 0

/-- The ticks from one instant on and before another. -/
def due (start p a b : Nat) : List Nat :=
  (List.range' a (b - a)).filter (isTick start p)

section
variable {start p : Nat}

theorem isTick_iff (hp : 0 < p) {t : Nat} :
    isTick start p t = true ↔ ∃ k, 1 ≤ k ∧ t = start + k * p := by
  unfold isTick
  rw [Bool.and_eq_true, decide_eq_true_eq, beq_iff_eq]
  constructor
  · rintro ⟨hlt, hmod⟩
    have hdiv : (t - start) / p * p = t - start := Nat.div_mul_cancel (Nat.dvd_of_mod_eq_zero hmod)
    refine ⟨(t - start) / p, Nat.pos_of_ne_zero fun h0 => ?_, by omega⟩
    rw [h0, Nat.zero_mul] at hdiv
    omega
  · rintro ⟨k, hk, rfl⟩
    have : 0 < k * p := Nat.mul_pos hk hp
    exact ⟨by omega, by rw [Nat.add_sub_cancel_left, Nat.mul_mod_left]⟩

theorem mem_due {a b t : Nat} : t ∈ due start p a b ↔ a ≤ t ∧ t < b ∧ isTick start p t = true := by
  unfold due
  rw [List.mem_filter, List.mem_range'_1]
  constructor
  · rintro ⟨⟨ha, hb⟩, ht⟩
    exact ⟨ha, by omega, ht⟩
  · rintro ⟨ha, hb, ht⟩
    exact ⟨⟨ha, by omega⟩, ht⟩

/-- Ticks come in time order, and none comes twice. -/
theorem due_pairwise (a b : Nat) : (due start p a b).Pairwise (· < ·) :=
  List.Pairwise.filter _ List.pairwise_lt_range'

theorem due_eq_nil {a b : Nat} (h : ∀ t, a ≤ t → t < b → isTick start p t = false) :
    due start p a b = [] := by
  rw [List.eq_nil_iff_forall_not_mem]
  intro t ht
  obtain ⟨ha, hb, htick⟩ := mem_due.mp ht
  rw [h t ha hb] at htick
  nomatch htick

theorem due_of_le {a b : Nat} (h : b ≤ a) : due start p a b = [] :=
  due_eq_nil fun t ha hb => by omega

theorem due_append {a b c : Nat} (hab : a ≤ b) (hbc : b ≤ c) :
    due start p a b ++ due start p b c = due start p a c := by
  unfold due
  rw [← List.filter_append, show c - a = (b - a) + (c - b) by omega, ← List.range'_append_1,
    show a + (b - a) = b by omega]

/-- The same, where the first window may be empty. -/
theorem due_max_append (a : Nat) {b c : Nat} (hbc : b ≤ c) :
    due start p a b ++ due start p (max a b) c = due start p a c := by
  rcases Nat.le_total a b with hab | hba
  · rw [Nat.max_eq_right hab, due_append hab hbc]
  · rw [Nat.max_eq_left hba, due_of_le hba, List.nil_append]

theorem due_self {t : Nat} (h : isTick start p t = true) : due start p t (t + 1) = [t] := by
  unfold due
  rw [show t + 1 - t = 1 by omega, List.range'_one, List.filter_cons, if_pos h, List.filter_nil]

/-! ### The next tick -/

/-- The first tick that is not before an instant. -/
structure IsNext (start p from_ tick : Nat) : Prop where
  isTick : isTick start p tick = true
  le : from_ ≤ tick
  first : ∀ t, Rotation.isTick start p t = true → from_ ≤ t → tick ≤ t

namespace IsNext

variable {a tick : Nat}

theorem unique {tick' : Nat} (h : IsNext start p a tick) (h' : IsNext start p a tick') :
    tick = tick' :=
  Nat.le_antisymm (h.first _ h'.isTick h'.le) (h'.first _ h.isTick h.le)

/-- It stays the next one until it comes. -/
theorem later (h : IsNext start p a tick) {b : Nat} (hab : a ≤ b) (hb : b ≤ tick) :
    IsNext start p b tick :=
  ⟨h.isTick, hb, fun t ht hbt => h.first t ht (Nat.le_trans hab hbt)⟩

theorem due_eq_nil (h : IsNext start p a tick) {b : Nat} (hb : b ≤ tick) :
    due start p a b = [] := by
  refine Rotation.due_eq_nil fun t ha htb => ?_
  rw [Bool.eq_false_iff]
  intro ht
  have := h.first t ht ha
  omega

/-- The first tick is one interval after the start. -/
theorem initial (hp : 0 < p) (start : Nat) : IsNext start p start (start + p) where
  isTick := (isTick_iff hp).mpr ⟨1, Nat.le_refl 1, by rw [Nat.one_mul]⟩
  le := Nat.le_add_right start p
  first := by
    intro t ht _
    obtain ⟨k, hk, rfl⟩ := (isTick_iff hp).mp ht
    exact Nat.add_le_add_left (Nat.le_mul_of_pos_left p hk) start

/-- The one after a tick is one interval later. -/
theorem step (hp : 0 < p) (h : Rotation.isTick start p tick = true) :
    IsNext start p (tick + 1) (tick + p) := by
  obtain ⟨k, hk, rfl⟩ := (isTick_iff hp).mp h
  refine ⟨(isTick_iff hp).mpr ⟨k + 1, by omega, by rw [Nat.succ_mul, Nat.add_assoc]⟩, by omega, ?_⟩
  intro t ht hlt
  obtain ⟨j, -, rfl⟩ := (isTick_iff hp).mp ht
  have hkj : k < j := Nat.lt_of_mul_lt_mul_right (a := p) (by omega)
  have := Nat.mul_le_mul_right p hkj
  rw [Nat.succ_mul] at this
  omega

end IsNext
end

/-! ## Agendas -/

/-- Whether a schedule runs, was cancelled, or has come to its end. -/
inductive Phase where
  | running
  | asked
  | ended
deriving DecidableEq, Repr

/-- What is done at an instant. -/
inductive Deed where
  | acts (act : Act)
  | reload
  | stop

/-- The clock, and how far the loop of a schedule has come: it has had its turn at every instant
before the frontier. -/
structure Plan where
  now : Nat
  frontier : Nat
  phase : Phase

namespace Plan

/-- A schedule that starts at an instant. -/
def new (start : Nat) : Plan :=
  ⟨start, start, .running⟩

/-- The same with another clock. -/
def moved (q : Plan) (now : Nat) : Plan :=
  ⟨now, q.frontier, q.phase⟩

/-- What the loop is to do if it gets its turns before an instant. -/
def turns (start p : Nat) (q : Plan) (later : Nat) : Plan × List (Nat × Deed) :=
  match q.phase with
  | .running =>
    ({ q with frontier := max q.frontier later },
      (due start p q.frontier later).map fun t => (t, .reload))
  | .asked => if q.now < later then ({ q with phase := .ended }, [(q.now, .stop)]) else (q, [])
  | .ended => (q, [])

/-- What one step is to do. -/
def step (start p : Nat) (q : Plan) : Step → Plan × List (Nat × Deed)
  | .acts a => (q, [(q.now, .acts a)])
  | .advance d =>
    let (q', ds) := q.turns start p (q.now + d)
    (q'.moved (q.now + d), ds)
  | .turn => q.turns start p (q.now + 1)
  | .cancel => (if q.phase = .running then { q with phase := .asked } else q, [])

/-- What a sequence of steps is to do. -/
def run (start p : Nat) (q : Plan) : List Step → Plan × List (Nat × Deed)
  | [] => (q, [])
  | s :: ss =>
    let (q, ds) := q.step start p s
    let (q, ds') := q.run start p ss
    (q, ds ++ ds')

end Plan

/-- What a deed makes of the files and the store. -/
def Deed.perform (files : FileTree) (store : CredentialStore) :
    Deed → FileTree × CredentialStore × List Event
  | .acts a => a.perform files store
  | .reload =>
    let (store, es) := tick files store
    (files, store, es)
  | .stop => (files, store, [.refreshStopped])

/-- Carries out an agenda. -/
def replay (files : FileTree) (store : CredentialStore) :
    List (Nat × Deed) → FileTree × CredentialStore × List Entry
  | [] => (files, store, [])
  | (t, d) :: ds =>
    let (files, store, es) := d.perform files store
    let (files, store, rest) := replay files store ds
    (files, store, Entry.stamp t es ++ rest)

/-- The instants at which an agenda reloads. -/
def reloads (ds : List (Nat × Deed)) : List Nat :=
  ds.filterMap fun (t, d) =>
    match d with
    | .reload => some t
    | .acts _ | .stop => none

/-- The instants at which a log says that a reload begins. -/
def checks (log : List Entry) : List Nat :=
  log.filterMap fun e => if e.event = .checking then some e.instant else none

/-- What others do in a sequence of steps. -/
def actsOf (steps : List Step) : List Act :=
  steps.filterMap fun s =>
    match s with
    | .acts a => some a
    | .advance _ | .turn | .cancel => none

/-- What others do in an agenda. -/
def actsIn (ds : List (Nat × Deed)) : List Act :=
  ds.filterMap fun (_, d) =>
    match d with
    | .acts a => some a
    | .reload | .stop => none

/-- The files and the store after some acts. -/
def performAll (files : FileTree) (store : CredentialStore) : List Act → FileTree × CredentialStore
  | [] => (files, store)
  | a :: as =>
    let (files, store, _) := a.perform files store
    performAll files store as

/-! ## Laws of agendas -/

theorem reloads_append (ds ds' : List (Nat × Deed)) :
    reloads (ds ++ ds') = reloads ds ++ reloads ds' :=
  List.filterMap_append

theorem checks_append (log log' : List Entry) : checks (log ++ log') = checks log ++ checks log' :=
  List.filterMap_append

theorem actsIn_append (ds ds' : List (Nat × Deed)) :
    actsIn (ds ++ ds') = actsIn ds ++ actsIn ds' :=
  List.filterMap_append

theorem actsIn_map (ts : List Nat) : actsIn (ts.map fun t => (t, .reload)) = [] := by
  unfold actsIn
  rw [List.filterMap_map, List.filterMap_eq_nil_iff]
  intro t _
  rfl

theorem reloads_map (ts : List Nat) : reloads (ts.map fun t => (t, .reload)) = ts := by
  unfold reloads
  rw [List.filterMap_map]
  exact List.filterMap_some

namespace Plan

variable {start p : Nat}

theorem run_cons (q : Plan) (s : Step) (ss : List Step) :
    q.run start p (s :: ss) =
      (((q.step start p s).1.run start p ss).1,
        (q.step start p s).2 ++ ((q.step start p s).1.run start p ss).2) := rfl

theorem run_append (q : Plan) (ss ss' : List Step) :
    q.run start p (ss ++ ss') =
      (((q.run start p ss).1.run start p ss').1,
        (q.run start p ss).2 ++ ((q.run start p ss).1.run start p ss').2) := by
  induction ss generalizing q with
  | nil => rfl
  | cons s ss ih => rw [List.cons_append, run_cons, ih, run_cons, List.append_assoc]

/-- A stretch of time may be cut anywhere. -/
theorem advance_advance (q : Plan) (a b : Nat) :
    q.run start p [.advance a, .advance b] = q.run start p [.advance (a + b)] := by
  obtain ⟨now, frontier, phase⟩ := q
  cases phase with
  | running =>
      have hfrontier : max (max frontier (now + a)) (now + (a + b)) = max frontier (now + (a + b)) := by
        omega
      have hdue := @due_max_append start p frontier _ _
        (Nat.add_le_add_left (Nat.le_add_right a b) now)
      simp only [run, step, turns, moved, Nat.add_assoc, hfrontier, List.append_nil, ← List.map_append,
        hdue]
  | asked =>
      by_cases ha : 0 < a
      · have hab : 0 < a + b := by omega
        simp [run, step, turns, moved, ha, hab, Nat.add_assoc]
      · obtain rfl : a = 0 := by omega
        simp [run, step, turns, moved]
  | ended => simp [run, step, turns, moved, Nat.add_assoc]

/-- The same anywhere in a run. -/
theorem run_cut (q : Plan) (ss ss' : List Step) (a b : Nat) :
    q.run start p (ss ++ .advance a :: .advance b :: ss') =
      q.run start p (ss ++ .advance (a + b) :: ss') := by
  have hcut (q : Plan) : q.run start p (.advance a :: .advance b :: ss') =
      q.run start p (.advance (a + b) :: ss') := by
    have htwo := @run_append start p q [.advance a, .advance b] ss'
    rw [advance_advance, ← run_append] at htwo
    exact htwo
  rw [run_append, run_append, hcut]

/-! ### While the schedule runs -/

theorem step_running {q : Plan} (h : q.phase = .running) {s : Step} (hs : s ≠ .cancel) :
    (q.step start p s).1.phase = .running ∧
    q.frontier ≤ (q.step start p s).1.frontier ∧
    reloads (q.step start p s).2 = due start p q.frontier (q.step start p s).1.frontier := by
  have hturns (later : Nat) :
      q.turns start p later = ({ q with frontier := max q.frontier later },
        (due start p q.frontier later).map fun t => (t, .reload)) := by
    unfold turns
    rw [h]
  have hdue (later : Nat) :
      due start p q.frontier later = due start p q.frontier (max q.frontier later) := by
    rw [← due_max_append q.frontier (Nat.le_max_right q.frontier later), due_of_le (Nat.le_refl _),
      List.append_nil]
  cases s with
  | acts a => exact ⟨h, Nat.le_refl _, (due_of_le (Nat.le_refl _)).symm⟩
  | advance d =>
      simp only [step, hturns, moved, reloads_map]
      exact ⟨h, Nat.le_max_left _ _, hdue _⟩
  | turn =>
      simp only [step, hturns, reloads_map]
      exact ⟨h, Nat.le_max_left _ _, hdue _⟩
  | cancel => exact absurd rfl hs

/-- Without a cancellation the reloads are the ticks before the frontier, whatever else happens. -/
theorem reloads_run {q : Plan} (h : q.phase = .running) {ss : List Step} (hss : .cancel ∉ ss) :
    (q.run start p ss).1.phase = .running ∧
    q.frontier ≤ (q.run start p ss).1.frontier ∧
    reloads (q.run start p ss).2 = due start p q.frontier (q.run start p ss).1.frontier := by
  induction ss generalizing q with
  | nil => exact ⟨h, Nat.le_refl _, (due_of_le (Nat.le_refl _)).symm⟩
  | cons s ss ih =>
      obtain ⟨hphase, hle, hreloads⟩ :=
        step_running (p := p) h fun hs => hss (hs ▸ List.mem_cons_self)
      obtain ⟨hphase', hle', hreloads'⟩ := ih hphase fun hs => hss (List.mem_cons_of_mem s hs)
      refine ⟨hphase', Nat.le_trans hle hle', ?_⟩
      rw [run_cons, reloads_append, hreloads, hreloads', due_append hle hle']

/-- If the loop had no turn but those on the way, time has stopped at the frontier. -/
theorem frontier_run {q : Plan} (h : q.phase = .running) (hnow : q.frontier = q.now)
    {ss : List Step} (hss : .cancel ∉ ss) (hturn : .turn ∉ ss) :
    (q.run start p ss).1.frontier = (q.run start p ss).1.now := by
  induction ss generalizing q with
  | nil => exact hnow
  | cons s ss ih =>
      have hphase := (@step_running start p _ h s fun hs => hss (hs ▸ List.mem_cons_self)).1
      refine ih hphase ?_ (fun hs => hss (List.mem_cons_of_mem s hs))
        fun hs => hturn (List.mem_cons_of_mem s hs)
      cases s with
      | acts a => exact hnow
      | advance d =>
          have hturns : (q.turns start p (q.now + d)).1.frontier = max q.frontier (q.now + d) := by
            unfold turns
            rw [h]
          show (q.turns start p (q.now + d)).1.frontier = q.now + d
          rw [hturns, hnow]
          exact Nat.max_eq_right (Nat.le_add_right _ _)
      | turn => exact absurd List.mem_cons_self hturn
      | cancel => exact absurd List.mem_cons_self hss

/-! ### After a cancellation -/

theorem step_of_asked {q : Plan} (h : q.phase ≠ .running) (s : Step) :
    (q.step start p s).1.phase ≠ .running ∧ reloads (q.step start p s).2 = [] := by
  obtain ⟨now, frontier, phase⟩ := q
  cases phase with
  | running => exact absurd rfl h
  | asked =>
      cases s with
      | acts a => exact ⟨h, rfl⟩
      | advance d =>
          simp only [step, turns]
          split
          · exact ⟨Phase.noConfusion, rfl⟩
          · exact ⟨h, rfl⟩
      | turn =>
          simp only [step, turns]
          split
          · exact ⟨Phase.noConfusion, rfl⟩
          · exact ⟨h, rfl⟩
      | cancel => exact ⟨h, rfl⟩
  | ended => cases s <;> exact ⟨h, rfl⟩

theorem reloads_run_of_asked {q : Plan} (h : q.phase ≠ .running) (ss : List Step) :
    reloads (q.run start p ss).2 = [] := by
  induction ss generalizing q with
  | nil => rfl
  | cons s ss ih =>
      obtain ⟨hphase, hreloads⟩ := @step_of_asked start p _ h s
      rw [run_cons, reloads_append, hreloads, ih hphase, List.nil_append]

theorem cancel_phase (q : Plan) : (q.step start p .cancel).1.phase ≠ .running := by
  obtain ⟨now, frontier, phase⟩ := q
  cases phase <;> exact Phase.noConfusion

/-! ### What an agenda is made of -/

/-- The clock of a schedule that runs is at its frontier, or has had its turn at this instant. -/
def Ahead (q : Plan) : Prop :=
  q.phase = .running → q.now ≤ q.frontier ∧ q.frontier ≤ q.now + 1

theorem Ahead.step {q : Plan} (h : q.Ahead) (s : Step) : (q.step start p s).1.Ahead := by
  obtain ⟨now, frontier, phase⟩ := q
  cases phase with
  | running =>
      obtain ⟨hle, hlt⟩ := h rfl
      dsimp only at hle hlt
      cases s with
      | acts a => exact h
      | advance d =>
          intro _
          simp only [Plan.step, turns, moved]
          omega
      | turn =>
          intro _
          simp only [Plan.step, turns]
          omega
      | cancel => exact fun hphase => nomatch hphase
  | asked => exact fun hphase => absurd hphase (step_of_asked Phase.noConfusion s).1
  | ended => exact fun hphase => absurd hphase (step_of_asked Phase.noConfusion s).1

theorem acts_step (q : Plan) (s : Step) : actsIn (q.step start p s).2 = actsOf [s] := by
  have hturns (later : Nat) : actsIn (q.turns start p later).2 = [] := by
    unfold turns
    split
    · exact actsIn_map _
    · split <;> rfl
    · rfl
  cases s with
  | acts a => rfl
  | advance d => exact hturns _
  | turn => exact hturns _
  | cancel => rfl

/-- Everything that others do is in the agenda, in their order. -/
theorem acts_run (q : Plan) (ss : List Step) : actsIn (q.run start p ss).2 = actsOf ss := by
  induction ss generalizing q with
  | nil => rfl
  | cons s ss ih =>
      rw [run_cons, actsIn_append, acts_step, ih]
      exact List.filterMap_append.symm

/-- What one step adds is done between the instants before and after it, in time order. -/
theorem step_times {q : Plan} (h : q.Ahead) (s : Step) :
    (∀ x ∈ (q.step start p s).2, q.now ≤ x.1 ∧ x.1 ≤ (q.step start p s).1.now) ∧
    (q.step start p s).2.Pairwise (·.1 ≤ ·.1) ∧ q.now ≤ (q.step start p s).1.now := by
  have hturns (later : Nat) : (∀ x ∈ (q.turns start p later).2, q.now ≤ x.1 ∧ x.1 < later) ∧
      (q.turns start p later).2.Pairwise (·.1 ≤ ·.1) ∧ (q.turns start p later).1.now = q.now := by
    unfold turns
    split
    · rename_i hphase
      refine ⟨fun x hx => ?_, ?_, rfl⟩
      · obtain ⟨t, ht, rfl⟩ := List.mem_map.mp hx
        obtain ⟨hfrom, hlater, -⟩ := mem_due.mp ht
        exact ⟨Nat.le_trans (h hphase).1 hfrom, hlater⟩
      · rw [List.pairwise_map]
        exact (due_pairwise _ _).imp Nat.le_of_lt
    · split
      · rename_i hlt
        refine ⟨fun x hx => ?_, List.pairwise_singleton _ _, rfl⟩
        rw [List.mem_singleton.mp hx]
        exact ⟨Nat.le_refl _, hlt⟩
      · exact ⟨fun x hx => (nomatch hx), List.Pairwise.nil, rfl⟩
    · exact ⟨fun x hx => (nomatch hx), List.Pairwise.nil, rfl⟩
  cases s with
  | acts a =>
      refine ⟨fun x hx => ?_, List.pairwise_singleton _ _, Nat.le_refl _⟩
      rw [List.mem_singleton.mp hx]
      exact ⟨Nat.le_refl _, Nat.le_refl _⟩
  | advance d =>
      obtain ⟨htimes, horder, -⟩ := hturns (q.now + d)
      exact ⟨fun x hx => ⟨(htimes x hx).1, Nat.le_of_lt (htimes x hx).2⟩, horder,
        Nat.le_add_right _ _⟩
  | turn =>
      obtain ⟨htimes, horder, hnow⟩ := hturns (q.now + 1)
      refine ⟨fun x hx => ⟨(htimes x hx).1, ?_⟩, horder, Nat.le_of_eq hnow.symm⟩
      show x.1 ≤ (q.turns start p (q.now + 1)).1.now
      rw [hnow]
      exact Nat.le_of_lt_succ (htimes x hx).2
  | cancel =>
      refine ⟨fun x hx => (nomatch hx), List.Pairwise.nil, ?_⟩
      simp only [step]
      split <;> exact Nat.le_refl _

/-- An agenda is in time order. -/
theorem run_pairwise {q : Plan} (h : q.Ahead) (ss : List Step) :
    (∀ x ∈ (q.run start p ss).2, q.now ≤ x.1) ∧
    (q.run start p ss).2.Pairwise (·.1 ≤ ·.1) := by
  induction ss generalizing q with
  | nil => exact ⟨fun x hx => (nomatch hx), List.Pairwise.nil⟩
  | cons s ss ih =>
      obtain ⟨htimes, horder, hnow⟩ := @step_times start p _ h s
      obtain ⟨hrest, horder'⟩ := ih (@Ahead.step start p _ h s)
      rw [run_cons]
      constructor
      · intro x hx
        rcases List.mem_append.mp hx with hx | hx
        · exact (htimes x hx).1
        · exact Nat.le_trans hnow (hrest x hx)
      · rw [List.pairwise_append]
        exact ⟨horder, horder', fun x hx y hy => Nat.le_trans (htimes x hx).2 (hrest y hy)⟩

end Plan

/-! ## Laws of replaying -/

section
variable {files : FileTree} {store : CredentialStore}

theorem replay_cons (files : FileTree) (store : CredentialStore) (t : Nat) (d : Deed)
    (ds : List (Nat × Deed)) :
    let r := d.perform files store
    let r' := replay r.1 r.2.1 ds
    replay files store ((t, d) :: ds) = (r'.1, r'.2.1, Entry.stamp t r.2.2 ++ r'.2.2) := rfl

theorem replay_append (files : FileTree) (store : CredentialStore) (ds ds' : List (Nat × Deed)) :
    let r := replay files store ds
    let r' := replay r.1 r.2.1 ds'
    replay files store (ds ++ ds') = (r'.1, r'.2.1, r.2.2 ++ r'.2.2) := by
  induction ds generalizing files store with
  | nil => rfl
  | cons d ds ih =>
      obtain ⟨t, d⟩ := d
      simp only [List.cons_append, replay_cons, ih, List.append_assoc]

/-- Without reloads, only the acts of others change anything. -/
theorem replay_of_no_reload {ds : List (Nat × Deed)} (h : reloads ds = []) :
    ((replay files store ds).1, (replay files store ds).2.1) = performAll files store (actsIn ds) := by
  induction ds generalizing files store with
  | nil => rfl
  | cons d ds ih =>
      obtain ⟨t, d⟩ := d
      cases d with
      | acts a => exact ih h
      | reload => nomatch h
      | stop => exact ih h

/-- The events of a load, and of anything else but a reload, do not say that a reload begins. -/
theorem checks_perform (files : FileTree) (store : CredentialStore) (t : Nat) (d : Deed) :
    checks (Entry.stamp t (d.perform files store).2.2) = reloads [(t, d)] := by
  have hinstall (i : Identity) : (store.install i).2 ≠ .checking := by
    unfold CredentialStore.install
    split <;> exact Event.noConfusion
  cases d with
  | acts a =>
      cases a with
      | write path data => rfl
      | remove path => rfl
      | load cert key =>
          simp only [Deed.perform, Act.perform, CredentialStore.load]
          cases Identity.load files cert key with
          | error e => rfl
          | ok i => simp [Except.map, Entry.stamp, checks, reloads, hinstall i]
  | reload =>
      simp only [Deed.perform, tick, CredentialStore.reload, CredentialStore.load]
      cases Identity.load files store.paths.cert store.paths.key with
      | error e => rfl
      | ok i => simp [Except.map, Entry.stamp, checks, reloads, hinstall i]
  | stop => rfl

/-- The log says that a reload begins exactly when the agenda reloads. -/
theorem checks_replay (files : FileTree) (store : CredentialStore) (ds : List (Nat × Deed)) :
    checks (replay files store ds).2.2 = reloads ds := by
  induction ds generalizing files store with
  | nil => rfl
  | cons d ds ih =>
      obtain ⟨t, d⟩ := d
      have hsplit : reloads ((t, d) :: ds) = reloads [(t, d)] ++ reloads ds :=
        reloads_append [(t, d)] ds
      rw [replay_cons, hsplit, ← checks_perform files store, ← ih]
      exact checks_append _ _

/-- A reload that fails is announced, logs its error, and is otherwise as if it were not there. -/
theorem replay_failed {ds : List (Nat × Deed)} {t : Nat} {e : LoadError} {ds' : List (Nat × Deed)} :
    let r := replay files store ds
    r.2.1.reload r.1 = .error e →
      (replay files store (ds ++ (t, .reload) :: ds')).2.2 =
        r.2.2 ++ ⟨t, .checking⟩ :: ⟨t, .reloadFailed e⟩ :: (replay r.1 r.2.1 ds').2.2 := by
  intro r hfailed
  have htick : tick r.1 r.2.1 = (r.2.1, [.checking, .reloadFailed e]) := by
    unfold tick
    rw [hfailed]
  rw [replay_append, replay_cons]
  simp only [Deed.perform]
  rw [htick]
  rfl

/-- Once the files hold a valid pair, one reload makes it current, and more change nothing. -/
theorem replay_reloads_current {i : Identity}
    (h : Identity.load files store.paths.cert store.paths.key = .ok i) {ts : List Nat}
    (hts : ts ≠ []) :
    (replay files store (ts.map fun t => (t, .reload))).2.1.current = some i := by
  induction ts generalizing store with
  | nil => exact absurd rfl hts
  | cons t ts ih =>
      have hfirst : (tick files store).1 = (store.install i).1 := by
        simp only [tick, CredentialStore.reload, CredentialStore.load_eq, h, Except.map]
      show (replay files (tick files store).1 (ts.map fun t => (t, .reload))).2.1.current = some i
      rw [hfirst]
      by_cases hrest : ts = []
      · rw [hrest]
        exact CredentialStore.install_current store i
      · refine ih ?_ hrest
        rw [CredentialStore.install_paths]
        exact h

end
end CertRotation.Rotation
