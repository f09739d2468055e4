/-
# `Proofs.Refresh.Loop` — the loop does what its agenda says

`Follows start p q r` says that the rotation `r` stands where the plan `q` says: same clock, the
deadline of its schedule is the first tick that is not before the frontier, its flags are those of
the phase.  The deadline is never before the clock, so no tick is ever late, and the rule for late
ticks never applies.

    one turn of the loop        ⟹  the turn of the plan      (`Follows.turn`)
    time passes, turn by turn   ⟹  the window of the plan     (`Follows.pass`)
    one step, any run           ⟹  the same of the plan       (`Follows.step`, `Follows.run`)

Everything that is said of a schedule is then read off its agenda.
-/
import CertRotation.Proofs.Refresh.Agenda

namespace CertRotation.Rotation

/-! ## One turn -/

section
variable {files : FileTree} {store : CredentialStore} {now p tick : Nat}

theorem turn_early (h : now < tick) :
    turn ⟨files, store, now, some ⟨p, tick, false, false, none⟩⟩ =
      (⟨files, store, now, some ⟨p, tick, false, false, none⟩⟩, []) := by
  simp only [turn, Bool.false_eq_true, if_false, h, if_true]

/-- A tick in time reloads, and the next one is an interval away. -/
theorem turn_due :
    turn ⟨files, store, tick, some ⟨p, tick, false, false, none⟩⟩ =
      (⟨files, (Rotation.tick files store).1, tick, some ⟨p, tick + p, false, false, none⟩⟩,
        (Rotation.tick files store).2) := by
  have hnext : Schedule.next ⟨p, tick, false, false, none⟩ tick = tick + p := by
    unfold Schedule.next
    exact if_neg (Nat.not_lt.mpr (Nat.le_add_right tick Schedule.slack))
  simp only [turn, Bool.false_eq_true, if_false, Nat.lt_irrefl, hnext]

end

/-! ## Time passing -/

theorem pass_of_lt {r : Rotation} {later : Nat} (h : r.now < later) :
    r.pass later =
      let t := r.turn
      let rest := Rotation.pass { t.1 with now := wake t.1.schedule r.now later } later
      (rest.1, Entry.stamp r.now t.2 ++ rest.2) := by
  rw [pass, dif_pos h]

theorem pass_of_le {r : Rotation} {later : Nat} (h : later ≤ r.now) : r.pass later = (r, []) := by
  rw [pass, dif_neg (Nat.not_lt.mpr h)]

/-! ## Following a plan -/

namespace Phase

/-- The cancellation of a schedule in this phase. -/
def isAsked : Phase → Bool
  | .running => false
  | .asked | .ended => true

/-- The end of the loop of a schedule in this phase. -/
def isEnded : Phase → Bool
  | .running | .asked => false
  | .ended => true

end Phase

/-- A rotation stands where a plan says. -/
structure Follows (start p : Nat) (q : Plan) (r : Rotation) : Prop where
  now : r.now = q.now
  ahead : q.Ahead
  schedule : ∃ tick, IsNext start p q.frontier tick ∧
    r.schedule = some ⟨p, tick, q.phase.isAsked, q.phase.isEnded, none⟩

namespace Follows

variable {start p : Nat} {q : Plan} {r : Rotation}

/-- A plan, the files and the store leave nothing of a rotation open. -/
theorem unique {r' : Rotation} (h : Follows start p q r) (h' : Follows start p q r')
    (hfiles : r.files = r'.files) (hstore : r.store = r'.store) : r = r' := by
  obtain ⟨files, store, now, schedule⟩ := r
  obtain ⟨files', store', now', schedule'⟩ := r'
  obtain ⟨tick, htick, hschedule⟩ := h.schedule
  obtain ⟨tick', htick', hschedule'⟩ := h'.schedule
  have hnow := h.now.trans h'.now.symm
  dsimp only at hfiles hstore hnow hschedule hschedule'
  rw [hfiles, hstore, hnow, hschedule, hschedule', htick.unique htick']

/-- At the start of a schedule. -/
theorem startSchedule (hp : 0 < p) (r : Rotation) :
    Follows r.now p (Plan.new r.now) (r.startSchedule p) where
  now := rfl
  ahead := fun _ => ⟨Nat.le_refl _, Nat.le_succ _⟩
  schedule := by
    refine ⟨r.now + p, IsNext.initial hp r.now, ?_⟩
    have hstopped : (p == 0) = false := beq_false_of_ne (Nat.ne_of_gt hp)
    simp only [Rotation.startSchedule, hstopped]
    rfl

/-- A turn of the loop is the turn of the plan. -/
theorem turn (hp : 0 < p) (h : Follows start p q r) :
    Follows start p (q.turns start p (q.now + 1)).1 r.turn.1 ∧
    replay r.files r.store (q.turns start p (q.now + 1)).2 =
      (r.turn.1.files, r.turn.1.store, Entry.stamp q.now r.turn.2) := by
  have hahead := @Plan.Ahead.step start p _ h.ahead .turn
  obtain ⟨files, store, now, schedule⟩ := r
  obtain ⟨now', frontier, phase⟩ := q
  obtain rfl : now = now' := h.now
  obtain ⟨tick, htick, rfl⟩ := h.schedule
  cases phase with
  | running =>
      obtain ⟨hle, hlt⟩ := h.ahead rfl
      dsimp only at hle hlt htick
      by_cases hearly : now < tick
      · have hdue : due start p frontier (now + 1) = [] := htick.due_eq_nil hearly
        have hnext : IsNext start p (max frontier (now + 1)) tick :=
          htick.later (Nat.le_max_left _ _) (Nat.max_le.mpr ⟨htick.le, hearly⟩)
        have hturn : Rotation.turn ⟨files, store, now, some ⟨p, tick, false, false, none⟩⟩ = _ :=
          turn_early hearly
        dsimp only [Phase.isAsked, Phase.isEnded]
        rw [hturn]
        refine ⟨⟨rfl, hahead, tick, hnext, rfl⟩, ?_⟩
        simp only [Plan.turns, hdue]
        rfl
      · obtain rfl : now = tick := Nat.le_antisymm (Nat.le_trans hle htick.le) (Nat.not_lt.mp hearly)
        obtain rfl : frontier = now := Nat.le_antisymm htick.le hle
        have hdue : due start p frontier (frontier + 1) = [frontier] := due_self htick.isTick
        have hnext : IsNext start p (max frontier (frontier + 1)) (frontier + p) := by
          rw [Nat.max_eq_right (Nat.le_succ frontier)]
          exact IsNext.step hp htick.isTick
        have hturn :
            Rotation.turn ⟨files, store, frontier, some ⟨p, frontier, false, false, none⟩⟩ = _ :=
          turn_due
        dsimp only [Phase.isAsked, Phase.isEnded]
        rw [hturn]
        refine ⟨⟨rfl, hahead, frontier + p, hnext, rfl⟩, ?_⟩
        simp only [Plan.turns, hdue, List.map_cons, List.map_nil, replay, Deed.perform,
          List.append_nil]
  | asked =>
      have hplan : (Plan.mk now frontier .asked).turns start p (now + 1) =
          (⟨now, frontier, .ended⟩, [(now, .stop)]) := if_pos (Nat.lt_succ_self now)
      rw [hplan]
      exact ⟨⟨rfl, fun hphase => Phase.noConfusion hphase, tick, htick, rfl⟩, rfl⟩
  | ended => exact ⟨⟨rfl, hahead, tick, htick, rfl⟩, rfl⟩

/-- Between its turns a loop that was not cancelled has nothing to do. -/
theorem idle (h : Follows start p q r) (hphase : q.phase ≠ .asked)
    (hturn : q.phase = .running → q.now < q.frontier) {later : Nat} (hlater : q.now < later) :
    let w := wake r.schedule q.now later
    w ≤ later ∧ (q.turns start p w).2 = [] ∧
      Follows start p ((q.turns start p w).1.moved w) { r with now := w } := by
  intro w
  obtain ⟨files, store, now, schedule⟩ := r
  obtain ⟨now', frontier, phase⟩ := q
  obtain rfl : now = now' := h.now
  obtain ⟨tick, htick, rfl⟩ := h.schedule
  cases phase with
  | running =>
      obtain ⟨hle, hlt⟩ := h.ahead rfl
      have hfrontier := hturn rfl
      dsimp only at hle hlt htick hfrontier hlater
      have hw : w = min later tick := by
        have := htick.le
        show min later (max (now + 1) tick) = min later tick
        omega
      have hwake : now < w := lt_wake _ hlater
      have hmax : max frontier w = w := by omega
      refine ⟨by omega, ?_, rfl, ?_, tick, ?_, rfl⟩
      · show (due start p frontier w).map _ = []
        rw [htick.due_eq_nil (by omega)]
        rfl
      · intro _
        show w ≤ max frontier w ∧ max frontier w ≤ w + 1
        omega
      · exact htick.later (Nat.le_max_left _ _) (Nat.max_le.mpr ⟨htick.le, by omega⟩)
  | asked => exact absurd rfl hphase
  | ended => exact ⟨Nat.le_refl _, rfl, rfl, fun hphase => (nomatch hphase), tick, htick, rfl⟩

end Follows

/-- Turns up to an instant and from there on to a later one are the turns up to the later one. -/
theorem Plan.turns_turns {start p : Nat} (q : Plan) {a later : Nat} (ha : q.now < a)
    (hlater : a ≤ later) (now end_ : Nat) :
    let first := q.turns start p a
    let rest := (first.1.moved now).turns start p later
    rest.1.moved end_ = (q.turns start p later).1.moved end_ ∧
      first.2 ++ rest.2 = (q.turns start p later).2 := by
  obtain ⟨now', frontier, phase⟩ := q
  dsimp only at ha
  cases phase with
  | running =>
      have hmax : max (max frontier a) later = max frontier later := by omega
      simp only [turns, moved, hmax, ← List.map_append, due_max_append frontier hlater, and_self]
  | asked =>
      have hnow : now' < later := Nat.lt_of_lt_of_le ha hlater
      simp only [turns, moved, ha, hnow, if_true, List.append_nil, and_self]
  | ended => exact ⟨rfl, rfl⟩

/-- Nothing is to do before the present instant. -/
theorem Plan.turns_now (start p : Nat) {q : Plan} (h : q.Ahead) :
    q.turns start p q.now = (q, []) := by
  obtain ⟨now, frontier, phase⟩ := q
  cases phase with
  | running =>
      have hle : now ≤ frontier := (h rfl).1
      simp only [turns, Nat.max_eq_left hle, due_of_le hle, List.map_nil]
  | asked => exact if_neg (Nat.lt_irrefl now)
  | ended => rfl

/-- After a turn at the present instant a schedule is past it, or has ended. -/
theorem Plan.turns_succ (start p : Nat) (q : Plan) :
    let first := (q.turns start p (q.now + 1)).1
    first.now = q.now ∧ first.phase ≠ .asked ∧ (first.phase = .running → q.now < first.frontier) := by
  obtain ⟨now, frontier, phase⟩ := q
  cases phase with
  | running => exact ⟨rfl, Phase.noConfusion, fun _ => Nat.le_max_right frontier (now + 1)⟩
  | asked =>
      have hturns : (Plan.mk now frontier .asked).turns start p (now + 1) =
          (⟨now, frontier, .ended⟩, [(now, .stop)]) := if_pos (Nat.lt_succ_self now)
      intro first
      have hfirst : first = ⟨now, frontier, .ended⟩ := congrArg Prod.fst hturns
      rw [hfirst]
      exact ⟨rfl, Phase.noConfusion, fun hphase => nomatch hphase⟩
  | ended => exact ⟨rfl, Phase.noConfusion, fun hphase => nomatch hphase⟩

namespace Follows

variable {start p : Nat}

/-- While time passes the loop does what is in the window of the plan. -/
theorem pass (hp : 0 < p) {q : Plan} {r : Rotation} (h : Follows start p q r) {later : Nat}
    (hlater : q.now ≤ later) :
    Follows start p ((q.turns start p later).1.moved later) (r.pass later).1 ∧
    replay r.files r.store (q.turns start p later).2 =
      ((r.pass later).1.files, (r.pass later).1.store, (r.pass later).2) := by
  induction hn : later - q.now using Nat.strongRecOn generalizing q r with
  | ind n ih =>
      by_cases hlt : q.now < later
      · obtain ⟨hnow, hphase, hfrontier⟩ := q.turns_succ start p
        obtain ⟨hturn, hreplay⟩ := h.turn hp
        obtain ⟨hplan, hdeeds⟩ :=
          @Plan.turns_turns start p q _ _ (Nat.lt_succ_self q.now) hlt q.now later
        have hpass := pass_of_lt (h.now.symm ▸ hlt)
        rw [h.now] at hpass
        -- from here on, only what is left of the plan and of the rotation after this turn
        generalize q.turns start p (q.now + 1) = first at hnow hphase hfrontier hturn hreplay hplan hdeeds
        generalize r.turn = second at hturn hreplay hpass
        obtain ⟨q₁, ds⟩ := first
        obtain ⟨r₁, es⟩ := second
        dsimp only at hnow hphase hfrontier hturn hreplay hplan hdeeds hpass
        have hq₁ : q₁.moved q.now = q₁ := by rw [← hnow]; rfl
        obtain ⟨hw, hnothing, hidle⟩ :=
          hturn.idle hphase (fun hrunning => hnow ▸ hfrontier hrunning) (hnow ▸ hlt)
        have hwake := lt_wake r₁.schedule hlt
        rw [hnow] at hw hnothing hidle
        generalize wake r₁.schedule q.now later = w at hw hnothing hidle hwake hpass
        obtain ⟨hplan', hdeeds'⟩ := @Plan.turns_turns start p q₁ _ _ (hnow ▸ hwake) hw w later
        have hleft : later - w < n := by omega
        obtain ⟨hrest, hreplay'⟩ := ih (later - w) hleft hidle hw rfl
        rw [hq₁] at hplan hdeeds
        rw [hnothing, List.nil_append] at hdeeds'
        rw [← hplan, ← hplan', ← hdeeds, ← hdeeds', hpass, replay_append, hreplay]
        dsimp only at hreplay' ⊢
        rw [hreplay']
        exact ⟨hrest, rfl⟩
      · obtain rfl : later = q.now := Nat.le_antisymm (Nat.not_lt.mp hlt) hlater
        rw [pass_of_le (Nat.le_of_eq h.now.symm), Plan.turns_now start p h.ahead]
        exact ⟨h, rfl⟩

theorem step (hp : 0 < p) {q : Plan} {r : Rotation} (h : Follows start p q r) (s : Step) :
    Follows start p (q.step start p s).1 (r.step s).1 ∧
    replay r.files r.store (q.step start p s).2 =
      ((r.step s).1.files, (r.step s).1.store, (r.step s).2) := by
  have hahead := @Plan.Ahead.step start p _ h.ahead s
  cases s with
  | acts a =>
      refine ⟨⟨h.now, hahead, h.schedule⟩, ?_⟩
      simp only [Plan.step, Rotation.step, replay, Deed.perform, List.append_nil, h.now]
  | advance d =>
      have hpass := h.pass hp (Nat.le_add_right q.now d)
      rw [← h.now] at hpass
      rw [Plan.step, Rotation.step, ← h.now]
      exact hpass
  | turn =>
      obtain ⟨hturn, hreplay⟩ := h.turn hp
      rw [← h.now] at hreplay hturn
      rw [Plan.step, Rotation.step, ← h.now]
      exact ⟨hturn, hreplay⟩
  | cancel =>
      obtain ⟨files, store, now, schedule⟩ := r
      obtain ⟨now', frontier, phase⟩ := q
      obtain rfl : now = now' := h.now
      obtain ⟨tick, htick, rfl⟩ := h.schedule
      cases phase with
      | running => exact ⟨⟨rfl, hahead, tick, htick, rfl⟩, rfl⟩
      | asked => exact ⟨⟨rfl, hahead, tick, htick, rfl⟩, rfl⟩
      | ended => exact ⟨⟨rfl, hahead, tick, htick, rfl⟩, rfl⟩

/-- Every run does what its agenda says. -/
theorem run (hp : 0 < p) {q : Plan} {r : Rotation} (h : Follows start p q r) (ss : List Step) :
    Follows start p (q.run start p ss).1 (r.run ss).1 ∧
    replay r.files r.store (q.run start p ss).2 =
      ((r.run ss).1.files, (r.run ss).1.store, (r.run ss).2) := by
  induction ss generalizing q r with
  | nil => exact ⟨h, rfl⟩
  | cons s ss ih =>
      obtain ⟨hstep, hreplay⟩ := h.step hp s
      obtain ⟨hrun, hreplay'⟩ := ih hstep
      rw [Plan.run_cons, replay_append, hreplay]
      dsimp only at hreplay' ⊢
      rw [hreplay']
      exact ⟨hrun, rfl⟩

/-- Runs with one agenda end alike. -/
theorem run_congr (hp : 0 < p) {q : Plan} {r : Rotation} (h : Follows start p q r)
    {ss ss' : List Step} (hss : q.run start p ss = q.run start p ss') : r.run ss = r.run ss' := by
  obtain ⟨hrun, hreplay⟩ := h.run hp ss
  obtain ⟨hrun', hreplay'⟩ := h.run hp ss'
  rw [hss] at hrun hreplay
  obtain ⟨hfiles, hrest⟩ := Prod.mk.inj (hreplay.symm.trans hreplay')
  obtain ⟨hstore, hlog⟩ := Prod.mk.inj hrest
  exact Prod.ext (hrun.unique hrun' hfiles hstore) hlog

end Follows

/-! ## The law of a schedule -/

section
variable {start p : Nat} {q : Plan} {r : Rotation}

/-- While the schedule runs, its reloads begin at the ticks before the frontier. -/
theorem checks_run (hp : 0 < p) (h : Follows start p q r) (hphase : q.phase = .running)
    {ss : List Step} (hss : .cancel ∉ ss) :
    checks (r.run ss).2 = due start p q.frontier (q.run start p ss).1.frontier := by
  have hlog := congrArg (fun x => checks x.2.2) (h.run hp ss).2
  dsimp only at hlog
  rw [← hlog, checks_replay]
  exact (Plan.reloads_run hphase hss).2.2

/-- Once the schedule is cancelled, no reload begins, and only the acts of others change anything. -/
theorem run_of_asked (hp : 0 < p) (h : Follows start p q r) (hphase : q.phase ≠ .running)
    (ss : List Step) :
    checks (r.run ss).2 = [] ∧
    ((r.run ss).1.files, (r.run ss).1.store) = performAll r.files r.store (actsOf ss) := by
  have hnone := @Plan.reloads_run_of_asked start p _ hphase ss
  have hreplay := (h.run hp ss).2
  constructor
  · rw [← congrArg (fun x => x.2.2) hreplay, checks_replay, hnone]
  · rw [← @Plan.acts_run start p q ss, ← replay_of_no_reload hnone, hreplay]

/-- If the files hold a valid pair, the next tick makes it current. -/
theorem current_of_tick (hp : 0 < p) (h : Follows start p q r) (hphase : q.phase = .running)
    {i : Identity} (hi : Identity.load r.files r.store.paths.cert r.store.paths.key = .ok i)
    {t d : Nat} (htick : isTick start p t = true) (hfrom : q.frontier ≤ t) (ht : t < q.now + d) :
    (r.step (.advance d)).1.store.current = some i := by
  have hreplay := (h.step hp (.advance d)).2
  have hdue : due start p q.frontier (q.now + d) ≠ [] :=
    List.ne_nil_of_mem (mem_due.mpr ⟨hfrom, ht, htick⟩)
  have hdeeds : (q.step start p (.advance d)).2 =
      (due start p q.frontier (q.now + d)).map fun t => (t, .reload) := by
    simp only [Plan.step, Plan.turns, hphase]
  rw [hdeeds] at hreplay
  rw [← congrArg (fun x => x.2.1.current) hreplay]
  exact replay_reloads_current hi hdue

end

theorem run_append (r : Rotation) (ss ss' : List Step) :
    r.run (ss ++ ss') = (((r.run ss).1.run ss').1, (r.run ss).2 ++ ((r.run ss).1.run ss').2) := by
  induction ss generalizing r with
  | nil => rfl
  | cons s ss ih =>
      have hcons (ss : List Step) : r.run (s :: ss) =
          (((r.step s).1.run ss).1, (r.step s).2 ++ ((r.step s).1.run ss).2) := rfl
      rw [List.cons_append, hcons, hcons, ih, List.append_assoc]

/-- A schedule that starts now with a positive interval, over whatever files and store, before and
after its cancellation.

Before: its reloads begin at `start + k * p` for `k ≥ 1`, in time order, up to the frontier, which
is the instant of the cancellation, or just past it if the loop had its turn at that instant.  After:
none begins, and only the acts of others change the files and the store.  Any run is the replay of its
agenda: what others do and the ticks that are due, in time order, each on the files and the store as
they are then.  A reload that fails logs one error after its notice and changes nothing.  A stretch of
time may be cut in two.  And the first tick after a valid pair is on disk makes it current, whatever
failed before. -/
theorem scheduled_run {p : Nat} (hp : 0 < p) (r : Rotation) {before : List Step}
    (hbefore : .cancel ∉ before) (after : List Step) :
    let start := r.now
    let r₀ := r.startSchedule p
    let q := ((Plan.new start).run start p before).1
    let r₁ := (r₀.run before).1
    let r₂ := (r₀.run (before ++ .cancel :: after)).1
    (checks (r₀.run before).2 = due start p start q.frontier ∧
      (checks (r₀.run before).2).Pairwise (· < ·) ∧
      (∀ t, t ∈ checks (r₀.run before).2 ↔ ∃ k, 1 ≤ k ∧ t = start + k * p ∧ t < q.frontier) ∧
      r₁.now ≤ q.frontier ∧ q.frontier ≤ r₁.now + 1 ∧
      (.turn ∉ before → q.frontier = r₁.now)) ∧
    (checks (r₀.run (before ++ .cancel :: after)).2 = checks (r₀.run before).2 ∧
      (r₂.files, r₂.store) = performAll r₁.files r₁.store (actsOf after)) ∧
    (∀ steps, let agenda := ((Plan.new start).run start p steps).2
      replay r.files r.store agenda =
        ((r₀.run steps).1.files, (r₀.run steps).1.store, (r₀.run steps).2) ∧
      actsIn agenda = actsOf steps ∧ reloads agenda = checks (r₀.run steps).2 ∧
      agenda.Pairwise (·.1 ≤ ·.1) ∧
      ∀ ds t ds' e, agenda = ds ++ (t, .reload) :: ds' →
        let (files, store, log) := replay r.files r.store ds
        store.reload files = .error e →
          (Event.reloadFailed e).level = .error ∧
          (r₀.run steps).2 =
            log ++ ⟨t, .checking⟩ :: ⟨t, .reloadFailed e⟩ :: (replay files store ds').2.2) ∧
    (∀ steps steps' a b, r₀.run (steps ++ .advance a :: .advance b :: steps') =
      r₀.run (steps ++ .advance (a + b) :: steps')) ∧
    (∀ i k d, Identity.load r₁.files r₁.store.paths.cert r₁.store.paths.key = .ok i →
      1 ≤ k → q.frontier ≤ start + k * p → start + k * p < r₁.now + d →
      (r₁.step (.advance d)).1.store.current = some i) := by
  intro start r₀ q r₁ r₂
  have h₀ : Follows start p (Plan.new start) r₀ := Follows.startSchedule hp r
  have h₁ : Follows start p q r₁ := (h₀.run hp before).1
  have hphase : q.phase = .running := (Plan.reloads_run rfl hbefore).1
  have hchecks : checks (r₀.run before).2 = due start p start q.frontier :=
    checks_run hp h₀ rfl hbefore
  refine ⟨⟨hchecks, ?_, ?_, ?_⟩, ?_, ?_, ?_, ?_⟩
  · rw [hchecks]
    exact due_pairwise _ _
  · intro t
    rw [hchecks, mem_due, isTick_iff hp]
    constructor
    · rintro ⟨-, hlt, k, hk, ht⟩
      exact ⟨k, hk, ht, hlt⟩
    · rintro ⟨k, hk, ht, hlt⟩
      exact ⟨by omega, hlt, k, hk, ht⟩
  · rw [h₁.now]
    obtain ⟨hle, hlt⟩ := h₁.ahead hphase
    exact ⟨hle, hlt, Plan.frontier_run rfl rfl hbefore⟩
  · have hcancel := (h₁.step hp .cancel).1
    obtain ⟨hnone, hacts⟩ := run_of_asked hp hcancel (Plan.cancel_phase q) after
    have hsplit : r₀.run (before ++ .cancel :: after) =
        (((r₁.step .cancel).1.run after).1,
          (r₀.run before).2 ++ ((r₁.step .cancel).1.run after).2) := r₀.run_append before _
    constructor
    · rw [hsplit, checks_append, hnone, List.append_nil]
    · show ((r₀.run (before ++ .cancel :: after)).1.files,
        (r₀.run (before ++ .cancel :: after)).1.store) = _
      rw [hsplit]
      exact hacts
  · intro steps agenda
    have hreplay := (h₀.run hp steps).2
    have hlog : (replay r.files r.store agenda).2.2 = (r₀.run steps).2 :=
      congrArg (fun x => x.2.2) hreplay
    refine ⟨hreplay, Plan.acts_run _ _, ?_, (Plan.run_pairwise h₀.ahead steps).2, ?_⟩
    · rw [← hlog, checks_replay]
    · intro ds t ds' e hagenda
      rw [hagenda] at hlog
      generalize hstate : replay r.files r.store ds = state
      obtain ⟨files, store, log⟩ := state
      intro hfailed
      refine ⟨rfl, hlog.symm.trans ?_⟩
      have hreload := @replay_failed r.files r.store ds t e ds'
      rw [hstate] at hreload
      exact hreload hfailed
  · intro steps steps' a b
    exact h₀.run_congr hp (Plan.run_cut _ steps steps' a b)
  · intro i k d hi hk hfrom hd
    exact current_of_tick hp h₁ hphase hi ((isTick_iff hp).mpr ⟨k, hk, rfl⟩) hfrom (h₁.now ▸ hd)

/-- A tick that is due when the schedule is cancelled does not happen, whenever the loop sees it. -/
theorem scheduled_run_cancelled_on_tick :
    let r₀ := (Rotation.new .empty {}).startSchedule 15
    checks (r₀.run [.advance 30, .cancel, .turn, .advance 100]).2 = [15] := by
  have h := @scheduled_run 15 (by decide) (Rotation.new .empty {}) [.advance 30] (by simp)
    [.turn, .advance 100]
  refine (h.2.1.1.trans h.1.1).trans ?_
  decide

end CertRotation.Rotation
