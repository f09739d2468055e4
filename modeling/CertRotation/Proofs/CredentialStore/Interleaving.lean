/-
# `Proofs.CredentialStore.Interleaving` — the generation never runs ahead of the identity

Between the swap of a replacement and the raise that belongs to it, anything can happen: other
swaps, other raises, readings, scrapes.  What a step can do is said once, by `Transition`; the
three invariants below are each kept by every transition, and by every run.

    Accounted    generation + pending raises = chain-changing swaps, and every reading is dated
    Serial       at most one task holds the lock, its number is the last one drawn
    Provided     every identity in place, or about to be, came whole with some move of the run

A reading is dated by the number of swaps before it (`Sighting.moment`).  A generation read at a
moment is at most the number of chain changes before that moment, since raises only ever lag; an
identity read later is the one of the last swap before a later moment.  So the two cannot be out
of step by more than what is still to be raised, and never the wrong way round
(`generation_behind_identity`).
-/
import CertRotation.CredentialStore.Interleaving
import CertRotation.Proofs.CredentialStore.Install

namespace CertRotation.CredentialStore.Interleaving

/-! ## Counting chain changes -/

theorem chainSwaps_append (ws vs : List Swap) :
    chainSwaps (ws ++ vs) = chainSwaps ws + chainSwaps vs :=
  List.countP_append

theorem chainSwaps_singleton (w : Swap) : chainSwaps [w] = if w.changed then 1 else 0 :=
  List.countP_singleton

theorem chainSwaps_take_le {m n : Nat} (ws : List Swap) (h : m ≤ n) :
    chainSwaps (ws.take m) ≤ chainSwaps (ws.take n) :=
  (List.take_prefix_take_left h).sublist.countP_le

/-- Where `g` chain changes have happened, one of them was the `g`-th. -/
theorem exists_isChange {ws : List Swap} {g n : Nat} (hpos : 1 ≤ g)
    (h : g ≤ chainSwaps (ws.take n)) : ∃ m, IsChange ws g m ∧ m < n := by
  induction n with
  | zero =>
      have hzero : g ≤ 0 := h
      omega
  | succ n ih =>
      by_cases hn : g ≤ chainSwaps (ws.take n)
      · obtain ⟨m, hm, hlt⟩ := ih hn
        exact ⟨m, hm, Nat.lt_succ_of_lt hlt⟩
      · -- The swap at `n` made the difference.
        rw [List.take_add_one, chainSwaps_append] at h
        cases hw : ws[n]? with
        | none =>
            rw [hw] at h
            exact absurd h hn
        | some w =>
            rw [hw, Option.toList_some, chainSwaps_singleton] at h
            cases hchanged : w.changed with
            | false =>
                rw [hchanged] at h
                exact absurd h hn
            | true =>
                rw [hchanged, if_pos rfl] at h
                exact ⟨n, ⟨⟨w, hw, hchanged⟩, by omega⟩, Nat.lt_succ_self n⟩

/-! ## What is current after some of the swaps -/

theorem currentAfter_snoc_of_le {ws : List Swap} {n : Nat} (w : Swap) (h : n ≤ ws.length) :
    currentAfter (ws ++ [w]) n = currentAfter ws n := by
  unfold currentAfter
  rw [List.take_append_of_le_length h]

theorem currentAfter_snoc_length (ws : List Swap) (w : Swap) :
    currentAfter (ws ++ [w]) (ws ++ [w]).length = some w.identity := by
  unfold currentAfter
  rw [List.take_length, List.getLast?_concat]
  rfl

/-- After the `g`-th chain change, what is current was installed by it or by a later swap. -/
theorem currentAfter_of_isChange {ws : List Swap} {g m n : Nat} (h : IsChange ws g m) (hlt : m < n)
    (hn : n ≤ ws.length) : ∃ x, currentAfter ws n = some x ∧ InstalledSince ws g x := by
  obtain ⟨w, hw⟩ : ∃ w, ws[n - 1]? = some w :=
    ⟨ws[n - 1], List.getElem?_eq_getElem (by omega)⟩
  have hlast : (ws.take n).getLast? = some w := by
    rw [List.getLast?_take, if_neg (by omega), hw]
    rfl
  refine ⟨w.identity, ?_, m, n - 1, h, by omega, ?_⟩
  · unfold currentAfter
    rw [hlast]
    rfl
  · rw [hw]
    rfl

/-! ## What a step can do -/

/-- Everything that a step can make of what is shared and of the task that takes it. -/
inductive Transition (s : Shared) : Task → Move → Shared → Task → Prop
  | stays (t : Task) (m : Move) : Transition s t m s t
  | acquire : s.locked = false → Transition s .idle .acquire s.acquired (.reading s.tickets)
  | read {ticket : Nat} {files : FileTree} {cert key : String} {i : Identity} :
      Identity.load files cert key = .ok i →
      Transition s (.reading ticket) (.read files cert key) s (.swapping (some ticket) i)
  | readFails (ticket : Nat) (m : Move) : Transition s (.reading ticket) m s (.releasing ticket)
  | replace (i : Identity) : Transition s .idle (.replace i) s (.swapping none i)
  | swap (ticket : Option Nat) (i : Identity) :
      Transition s (.swapping ticket i) .swap (s.swapped ticket i)
        (.raising ticket (changesChain s.store.current i))
  | raise (ticket : Option Nat) (changed : Bool) :
      Transition s (.raising ticket changed) .raise (s.raised changed) (.afterRaise ticket)
  | release (ticket : Nat) : Transition s (.releasing ticket) .release { s with locked := false } .idle
  | look : Transition s .idle .look (s.answering (.identity s.store.current)) .idle
  | count : Transition s .idle .count (s.answering (.generation s.store.generation)) .idle
  | scrape :
      Transition s .idle .scrape (s.answering (.generation s.store.generation))
        (.scraping s.store.generation)
  | report (generation : Nat) :
      Transition s (.scraping generation) .report (s.reported generation) .idle

theorem move_transition (s : Shared) (t : Task) (m : Move) :
    Transition s t m (move s t m).1 (move s t m).2 := by
  unfold move
  split
  · split
    · exact .stays _ _
    · rename_i h
      exact .acquire (Bool.eq_false_iff.mpr h)
  · exact .replace _
  · exact .look
  · exact .count
  · exact .scrape
  · exact .report _
  · split
    · rename_i h
      exact .read h
    · exact .readFails _ _
  · exact .swap _ _
  · exact .raise _ _
  · exact .release _
  · exact .stays _ _

namespace State

/-- A step is a transition of one task, or nothing where there is no such task. -/
theorem step_cases (s : State) (n : Nat) (m : Move) :
    s.step n m = s ∨ ∃ t shared t', s.tasks[n]? = some t ∧ Transition s.shared t m shared t' ∧
      s.step n m = ⟨shared, s.tasks.set n t'⟩ := by
  unfold step
  cases ht : s.tasks[n]? with
  | none => exact Or.inl rfl
  | some t => exact Or.inr ⟨t, _, _, rfl, move_transition s.shared t m, rfl⟩

end State

/-- After one task has moved, a task is that one, or another that stands where it stood. -/
theorem getElem?_set_cases {tasks : List Task} {n j : Nat} {t u : Task}
    (h : (tasks.set n t)[j]? = some u) : (j = n ∧ u = t) ∨ (j ≠ n ∧ tasks[j]? = some u) := by
  rw [List.getElem?_set] at h
  by_cases hj : n = j
  · rw [if_pos hj] at h
    split at h
    · exact Or.inl ⟨hj.symm, (Option.some.inj h).symm⟩
    · nomatch h
  · rw [if_neg hj] at h
    exact Or.inr ⟨fun h => hj h.symm, h⟩

/-- The count of pending tasks changes by the task that moves. -/
theorem pending_set {tasks : List Task} {n : Nat} {t : Task} (u : Task) (h : tasks[n]? = some t) :
    (tasks.set n u).countP Task.isPending + (if t.isPending then 1 else 0) =
      tasks.countP Task.isPending + if u.isPending then 1 else 0 := by
  obtain ⟨hn, rfl⟩ := List.getElem?_eq_some_iff.mp h
  rw [List.countP_set hn]
  have hle : (if tasks[n].isPending = true then 1 else 0) ≤ tasks.countP Task.isPending := by
    split
    · exact List.countP_pos_iff.mpr ⟨tasks[n], List.getElem_mem hn, by assumption⟩
    · exact Nat.zero_le _
  omega

/-! ## The generation and the readers -/

/-- A reading tells what was so at its moment: the identity of the last swap before it, or a
generation that no chain change was missing from. -/
def Sighting.Dated (ws : List Swap) (o : Sighting) : Prop :=
  o.moment ≤ ws.length ∧
    match o.answer with
    | .identity i => i = currentAfter ws o.moment
    | .generation g => g ≤ chainSwaps (ws.take o.moment)

theorem Sighting.Dated.snoc {ws : List Swap} {o : Sighting} (h : o.Dated ws) (w : Swap) :
    o.Dated (ws ++ [w]) := by
  obtain ⟨hle, h⟩ := h
  refine ⟨by rw [List.length_append]; omega, ?_⟩
  cases ha : o.answer with
  | identity i =>
      rw [ha] at h
      exact h.trans (currentAfter_snoc_of_le w hle).symm
  | generation g =>
      rw [ha] at h
      show g ≤ chainSwaps ((ws ++ [w]).take o.moment)
      rw [List.take_append_of_le_length hle]
      exact h

/-- A report is dated like two readings, the generation not after the identity. -/
def DatedReport (ws : List Swap) (r : Nat × Option Identity) : Prop :=
  ∃ n, n ≤ ws.length ∧ r.1 ≤ chainSwaps (ws.take n) ∧ r.2 = currentAfter ws n

theorem DatedReport.snoc {ws : List Swap} {r : Nat × Option Identity} (h : DatedReport ws r)
    (w : Swap) : DatedReport (ws ++ [w]) r := by
  obtain ⟨n, hn, hg, hi⟩ := h
  refine ⟨n, by rw [List.length_append]; omega, ?_, ?_⟩
  · rw [List.take_append_of_le_length hn]
    exact hg
  · rw [currentAfter_snoc_of_le w hn]
    exact hi

/-- The raises lag behind the swaps by what is pending, and every reading is dated. -/
structure Accounted (s : State) : Prop where
  current : s.shared.store.current = currentAfter s.shared.swaps s.shared.swaps.length
  generation : s.shared.store.generation + s.pending = chainSwaps s.shared.swaps
  dated : ∀ o ∈ s.shared.sightings, o.Dated s.shared.swaps
  inOrder : s.shared.sightings.Pairwise (·.moment ≤ ·.moment)
  scrapes : ∀ g, Task.scraping g ∈ s.tasks → g ≤ chainSwaps s.shared.swaps
  reports : ∀ r ∈ s.shared.reports, DatedReport s.shared.swaps r

namespace Accounted

variable {s : State} {n : Nat} {t t' : Task}

theorem initial (paths : IdentityPaths) (tasks : Nat) : Accounted (State.initial paths tasks) where
  current := rfl
  generation := by
    show 0 + (List.replicate tasks Task.idle).countP Task.isPending = 0
    rw [List.countP_replicate]
    rfl
  dated := fun o h => nomatch h
  inOrder := List.Pairwise.nil
  scrapes := by
    intro g hg
    have := List.eq_of_mem_replicate hg
    nomatch this
  reports := fun r h => nomatch h

theorem generation_le (h : Accounted s) :
    s.shared.store.generation ≤ chainSwaps s.shared.swaps := by
  have := h.generation
  omega

/-- A task that moves on and owes a raise exactly if it did before. -/
theorem retask (h : Accounted s) (ht : s.tasks[n]? = some t) (hp : t'.isPending = t.isPending)
    (hscrape : ∀ g, t' = .scraping g → g ≤ chainSwaps s.shared.swaps) :
    Accounted ⟨s.shared, s.tasks.set n t'⟩ where
  current := h.current
  generation := by
    have hcount := pending_set t' ht
    rw [hp] at hcount
    have hsame : (s.tasks.set n t').countP Task.isPending = s.pending := Nat.add_right_cancel hcount
    show _ + (s.tasks.set n t').countP Task.isPending = _
    rw [hsame]
    exact h.generation
  dated := h.dated
  inOrder := h.inOrder
  scrapes := by
    intro g hg
    rcases List.mem_or_eq_of_mem_set hg with hg | hg
    · exact h.scrapes g hg
    · exact hscrape g hg.symm
  reports := h.reports

/-- A reader is told what is so now. -/
theorem answer (h : Accounted s) {a : Answer}
    (ha : Sighting.Dated s.shared.swaps ⟨s.shared.swaps.length, a⟩) :
    Accounted ⟨s.shared.answering a, s.tasks⟩ where
  current := h.current
  generation := h.generation
  dated := by
    intro o ho
    rcases List.mem_append.mp ho with ho | ho
    · exact h.dated o ho
    · rw [List.mem_singleton.mp ho]
      exact ha
  inOrder := by
    refine List.pairwise_append.mpr ⟨h.inOrder, List.pairwise_singleton _ _, ?_⟩
    intro o ho o' ho'
    rw [List.mem_singleton.mp ho']
    exact (h.dated o ho).1
  scrapes := h.scrapes
  reports := h.reports

theorem answer_identity (h : Accounted s) :
    Accounted ⟨s.shared.answering (.identity s.shared.store.current), s.tasks⟩ :=
  h.answer ⟨Nat.le_refl _, h.current⟩

theorem answer_generation (h : Accounted s) :
    Accounted ⟨s.shared.answering (.generation s.shared.store.generation), s.tasks⟩ :=
  h.answer ⟨Nat.le_refl _, by rw [List.take_length]; exact h.generation_le⟩

/-- A scrape reports the generation that it was told before, and the identity of now. -/
theorem report (h : Accounted s) {g : Nat} (hg : g ≤ chainSwaps s.shared.swaps) :
    Accounted ⟨s.shared.reported g, s.tasks⟩ where
  current := h.current
  generation := h.generation
  dated := h.answer_identity.dated
  inOrder := h.answer_identity.inOrder
  scrapes := h.scrapes
  reports := by
    intro r hr
    rcases List.mem_append.mp hr with hr | hr
    · exact h.reports r hr
    · rw [List.mem_singleton.mp hr]
      exact ⟨_, Nat.le_refl _, by rw [List.take_length]; exact hg, h.current⟩

/-- A swap that changes the chain is owed to the generation until the task raises it. -/
theorem swap (h : Accounted s) {ticket : Option Nat} {i : Identity}
    (ht : s.tasks[n]? = some (.swapping ticket i)) :
    Accounted ⟨s.shared.swapped ticket i,
      s.tasks.set n (.raising ticket (changesChain s.shared.store.current i))⟩ where
  current := by
    show _ = currentAfter (s.shared.swaps ++ [_]) (s.shared.swaps ++ [_]).length
    rw [currentAfter_snoc_length]
    rfl
  generation := by
    have hcount : (s.tasks.set n (.raising ticket (changesChain s.shared.store.current i))).countP
        Task.isPending + 0 = s.pending + if changesChain s.shared.store.current i then 1 else 0 :=
      pending_set (.raising ticket (changesChain s.shared.store.current i)) ht
    have hgeneration := h.generation
    show s.shared.store.generation + (s.tasks.set n _).countP Task.isPending =
      chainSwaps (s.shared.swaps ++ [_])
    rw [chainSwaps_append, chainSwaps_singleton]
    dsimp only
    omega
  dated := fun o ho => (h.dated o ho).snoc _
  inOrder := h.inOrder
  scrapes := by
    intro g hg
    show g ≤ chainSwaps (s.shared.swaps ++ [_])
    rw [chainSwaps_append]
    rcases List.mem_or_eq_of_mem_set hg with hg | hg
    · exact Nat.le_add_right_of_le (h.scrapes g hg)
    · nomatch hg
  reports := fun r hr => (h.reports r hr).snoc _

/-- A raise pays what its own swap still owed. -/
theorem raise (h : Accounted s) {ticket : Option Nat} {changed : Bool}
    (ht : s.tasks[n]? = some (.raising ticket changed)) :
    Accounted ⟨s.shared.raised changed, s.tasks.set n (.afterRaise ticket)⟩ where
  current := h.current
  generation := by
    have hafter : (Task.afterRaise ticket).isPending = false := by cases ticket <;> rfl
    have hcount : (s.tasks.set n (.afterRaise ticket)).countP Task.isPending +
        (if changed then 1 else 0) = s.pending + 0 := by
      have hset := pending_set (.afterRaise ticket) ht
      rw [hafter] at hset
      exact hset
    have hgeneration := h.generation
    show s.shared.store.generation + (if changed = true then 1 else 0) +
      (s.tasks.set n _).countP Task.isPending = chainSwaps s.shared.swaps
    omega
  dated := h.dated
  inOrder := h.inOrder
  scrapes := by
    intro g hg
    rcases List.mem_or_eq_of_mem_set hg with hg | hg
    · exact h.scrapes g hg
    · cases ticket <;> nomatch hg
  reports := h.reports

theorem step (h : Accounted s) (n : Nat) (m : Move) : Accounted (s.step n m) := by
  rcases s.step_cases n m with heq | ⟨t, shared, t', ht, htransition, heq⟩
  · rw [heq]
    exact h
  · rw [heq]
    cases htransition with
    | stays => exact h.retask ht rfl fun g hg => h.scrapes g (hg ▸ List.mem_of_getElem? ht)
    | acquire hfree =>
        have hacquired : Accounted ⟨s.shared.acquired, s.tasks⟩ :=
          ⟨h.current, h.generation, h.dated, h.inOrder, h.scrapes, h.reports⟩
        exact hacquired.retask ht rfl fun g hg => nomatch hg
    | read hload => exact h.retask ht rfl fun g hg => nomatch hg
    | readFails => exact h.retask ht rfl fun g hg => nomatch hg
    | replace i => exact h.retask ht rfl fun g hg => nomatch hg
    | swap ticket i => exact h.swap ht
    | raise ticket changed => exact h.raise ht
    | release ticket =>
        have hreleased : Accounted ⟨{ s.shared with locked := false }, s.tasks⟩ :=
          ⟨h.current, h.generation, h.dated, h.inOrder, h.scrapes, h.reports⟩
        exact hreleased.retask ht rfl fun g hg => nomatch hg
    | look => exact h.answer_identity.retask ht rfl fun g hg => nomatch hg
    | count => exact h.answer_generation.retask ht rfl fun g hg => nomatch hg
    | scrape =>
        refine h.answer_generation.retask ht rfl fun g hg => ?_
        rw [← Task.scraping.inj hg]
        exact h.generation_le
    | report g =>
        have hg : g ≤ chainSwaps s.shared.swaps := h.scrapes g (List.mem_of_getElem? ht)
        exact (h.report hg).retask ht rfl fun g hg => nomatch hg

theorem run (h : Accounted s) (moves : List (Nat × Move)) : Accounted (s.run moves) := by
  induction moves generalizing s with
  | nil => exact h
  | cons m moves ih => exact ih (h.step m.1 m.2)

end Accounted

/-! ## The lock -/

/-- The task `n` holds the lock, with the number that it drew. -/
def State.Holds (s : State) (n ticket : Nat) : Prop :=
  ∃ t, s.tasks[n]? = some t ∧ t.ticket? = some ticket

/-- The numbers with which loads have swapped an identity in, in order of the swaps. -/
def loadTickets (ws : List Swap) : List Nat :=
  ws.filterMap (·.ticket)

theorem loadTickets_snoc (ws : List Swap) (w : Swap) :
    loadTickets (ws ++ [w]) = loadTickets ws ++ w.ticket.toList := by
  unfold loadTickets
  rw [List.filterMap_append]
  cases hw : w.ticket <;> simp [hw]

/-- Loads hold the lock one at a time and swap in the order of the numbers that they drew with it. -/
structure Serial (s : State) : Prop where
  locked : ∀ n k, s.Holds n k → s.shared.locked = true
  unique : ∀ n n' k k', s.Holds n k → s.Holds n' k' → n = n'
  latest : ∀ n k, s.Holds n k → k + 1 = s.shared.tickets
  drawn : ∀ k ∈ loadTickets s.shared.swaps, k < s.shared.tickets
  beforeSwap : ∀ (n : Nat) (t : Task) (k : Nat), s.tasks[n]? = some t → t.isBeforeSwap = true →
    t.ticket? = some k → k ∉ loadTickets s.shared.swaps
  inOrder : (loadTickets s.shared.swaps).Pairwise (· < ·)

namespace Serial

variable {s : State} {n : Nat} {t t' : Task}

theorem initial (paths : IdentityPaths) (tasks : Nat) : Serial (State.initial paths tasks) := by
  have hidle (n k : Nat) : ¬ (State.initial paths tasks).Holds n k := by
    rintro ⟨t, ht, hk⟩
    rw [List.eq_of_mem_replicate (List.mem_of_getElem? ht)] at hk
    nomatch hk
  exact
    { locked := fun n k h => absurd h (hidle n k)
      unique := fun n n' k k' h => absurd h (hidle n k)
      latest := fun n k h => absurd h (hidle n k)
      drawn := fun k h => nomatch h
      beforeSwap := fun n t k ht _ hk => absurd ⟨t, ht, hk⟩ (hidle n k)
      inOrder := List.Pairwise.nil }

/-- A task that holds the lock after a task has moved held it before, if the one that moved did. -/
theorem holds_of_set {shared : Shared} (ht : s.tasks[n]? = some t)
    (hticket : ∀ k, t'.ticket? = some k → t.ticket? = some k) {j k : Nat}
    (h : State.Holds ⟨shared, s.tasks.set n t'⟩ j k) : s.Holds j k := by
  obtain ⟨u, hu, hk⟩ := h
  rcases getElem?_set_cases hu with ⟨rfl, rfl⟩ | ⟨-, hu⟩
  · exact ⟨t, ht, hticket k hk⟩
  · exact ⟨u, hu, hk⟩

/-- A task that moves on without the lock, or keeping it, and not back before its swap. -/
theorem retask (h : Serial s) (ht : s.tasks[n]? = some t)
    (hticket : ∀ k, t'.ticket? = some k → t.ticket? = some k)
    (hbefore : t'.isBeforeSwap = true → t'.ticket? ≠ none → t.isBeforeSwap = true) :
    Serial ⟨s.shared, s.tasks.set n t'⟩ where
  locked := fun j k hj => h.locked j k (holds_of_set ht hticket hj)
  unique := fun j j' k k' hj hj' =>
    h.unique j j' k k' (holds_of_set ht hticket hj) (holds_of_set ht hticket hj')
  latest := fun j k hj => h.latest j k (holds_of_set ht hticket hj)
  drawn := h.drawn
  beforeSwap := by
    intro j u k hu hb hk
    rcases getElem?_set_cases hu with ⟨rfl, rfl⟩ | ⟨-, hu⟩
    · have hne : u.ticket? ≠ none := by rw [hk]; exact Option.some_ne_none k
      exact h.beforeSwap j t k ht (hbefore hb hne) (hticket k hk)
    · exact h.beforeSwap j u k hu hb hk
  inOrder := h.inOrder

/-- Taking the lock is drawing the next number. -/
theorem acquire (h : Serial s) (n : Nat) (hfree : s.shared.locked = false) :
    Serial ⟨s.shared.acquired, s.tasks.set n (.reading s.shared.tickets)⟩ := by
  have hnone (j k : Nat) : ¬ s.Holds j k := by
    intro hj
    have hlocked := h.locked j k hj
    rw [hfree] at hlocked
    nomatch hlocked
  -- The only holder is the task that has just taken the lock.
  have honly {j k : Nat}
      (hj : State.Holds ⟨s.shared.acquired, s.tasks.set n (.reading s.shared.tickets)⟩ j k) :
      j = n ∧ k = s.shared.tickets := by
    obtain ⟨u, hu, hk⟩ := hj
    rcases getElem?_set_cases hu with ⟨hjn, rfl⟩ | ⟨-, hu⟩
    · exact ⟨hjn, (Option.some.inj hk).symm⟩
    · exact absurd ⟨u, hu, hk⟩ (hnone j k)
  exact
    { locked := fun _ _ _ => rfl
      unique := fun j j' k k' hj hj' => (honly hj).1.trans (honly hj').1.symm
      latest := fun j k hj => congrArg (· + 1) (honly hj).2
      drawn := fun k hk => Nat.lt_succ_of_lt (h.drawn k hk)
      beforeSwap := by
        intro j u k hu _ hk hmem
        have hlt := h.drawn k hmem
        rw [(honly ⟨u, hu, hk⟩).2] at hlt
        exact Nat.lt_irrefl _ hlt
      inOrder := h.inOrder }

/-- A load swaps with a number above all that have swapped before. -/
theorem swap (h : Serial s) {ticket : Option Nat} {i : Identity} {changed : Bool}
    (ht : s.tasks[n]? = some (.swapping ticket i)) :
    Serial ⟨s.shared.swapped ticket i, s.tasks.set n (.raising ticket changed)⟩ := by
  have hswaps : loadTickets (s.shared.swapped ticket i).swaps =
      loadTickets s.shared.swaps ++ ticket.toList :=
    loadTickets_snoc _ _
  have hown {k : Nat} (hk : k ∈ ticket.toList) : s.Holds n k :=
    ⟨_, ht, Option.mem_toList.mp hk⟩
  have hkeeps (k : Nat) (hk : (Task.raising ticket changed).ticket? = some k) :
      (Task.swapping ticket i).ticket? = some k := hk
  exact
    { locked := fun j k hj => h.locked j k (holds_of_set ht hkeeps hj)
      unique := fun j j' k k' hj hj' =>
        h.unique j j' k k' (holds_of_set ht hkeeps hj) (holds_of_set ht hkeeps hj')
      latest := fun j k hj => h.latest j k (holds_of_set ht hkeeps hj)
      drawn := by
        intro k hk
        rw [hswaps] at hk
        rcases List.mem_append.mp hk with hk | hk
        · exact h.drawn k hk
        · have hlatest := h.latest n k (hown hk)
          show k < s.shared.tickets
          omega
      beforeSwap := by
        intro j u k hu hb hk hmem
        rcases getElem?_set_cases hu with ⟨-, rfl⟩ | ⟨hjn, hu⟩
        · nomatch hb
        · rw [hswaps] at hmem
          rcases List.mem_append.mp hmem with hmem | hmem
          · exact h.beforeSwap j u k hu hb hk hmem
          · exact hjn (h.unique j n k k ⟨u, hu, hk⟩ (hown hmem))
      inOrder := by
        show (loadTickets (s.shared.swapped ticket i).swaps).Pairwise (· < ·)
        rw [hswaps]
        refine List.pairwise_append.mpr ⟨h.inOrder, ?_, ?_⟩
        · cases ticket with
          | none => exact List.Pairwise.nil
          | some k => exact List.pairwise_singleton _ _
        · intro k hk k' hk'
          have hdrawn := h.drawn k hk
          have hlatest := h.latest n k' (hown hk')
          have hne : k ≠ k' := by
            rintro rfl
            exact h.beforeSwap n _ k ht rfl (Option.mem_toList.mp hk') hk
          omega }

/-- Nobody holds the lock when its holder has let go of it. -/
theorem release (h : Serial s) {ticket : Nat} (ht : s.tasks[n]? = some (.releasing ticket)) :
    Serial ⟨{ s.shared with locked := false }, s.tasks.set n .idle⟩ := by
  have hnone (j k : Nat) :
      ¬ State.Holds ⟨{ s.shared with locked := false }, s.tasks.set n .idle⟩ j k := by
    rintro ⟨u, hu, hk⟩
    rcases getElem?_set_cases hu with ⟨-, rfl⟩ | ⟨hjn, hu⟩
    · nomatch hk
    · exact hjn (h.unique j n k ticket ⟨u, hu, hk⟩ ⟨_, ht, rfl⟩)
  exact
    { locked := fun j k hj => absurd hj (hnone j k)
      unique := fun j j' k k' hj => absurd hj (hnone j k)
      latest := fun j k hj => absurd hj (hnone j k)
      drawn := h.drawn
      beforeSwap := fun j u k hu _ hk => absurd ⟨u, hu, hk⟩ (hnone j k)
      inOrder := h.inOrder }

/-- What readers do has nothing to do with the lock. -/
theorem answer (h : Serial s) (a : Answer) : Serial ⟨s.shared.answering a, s.tasks⟩ :=
  ⟨h.locked, h.unique, h.latest, h.drawn, h.beforeSwap, h.inOrder⟩

theorem step (h : Serial s) (n : Nat) (m : Move) : Serial (s.step n m) := by
  rcases s.step_cases n m with heq | ⟨t, shared, t', ht, htransition, heq⟩
  · rw [heq]
    exact h
  · rw [heq]
    cases htransition with
    | stays => exact h.retask ht (fun _ hk => hk) fun hb _ => hb
    | acquire hfree => exact h.acquire n hfree
    | read hload => exact h.retask ht (fun _ hk => hk) fun _ _ => rfl
    | readFails => exact h.retask ht (fun _ hk => hk) fun hb _ => nomatch hb
    | replace i => exact h.retask ht (fun _ hk => nomatch hk) fun _ hne => absurd rfl hne
    | swap ticket i => exact h.swap ht
    | raise ticket changed =>
        have hraised : Serial ⟨s.shared.raised changed, s.tasks⟩ :=
          ⟨h.locked, h.unique, h.latest, h.drawn, h.beforeSwap, h.inOrder⟩
        cases ticket with
        | none => exact hraised.retask ht (fun _ hk => nomatch hk) fun hb _ => nomatch hb
        | some k => exact hraised.retask ht (fun _ hk => hk) fun hb _ => nomatch hb
    | release ticket => exact h.release ht
    | look => exact (h.answer _).retask ht (fun _ hk => hk) fun hb _ => hb
    | count => exact (h.answer _).retask ht (fun _ hk => hk) fun hb _ => hb
    | scrape => exact (h.answer _).retask ht (fun _ hk => nomatch hk) fun hb _ => nomatch hb
    | report g =>
        have hreported : Serial ⟨s.shared.reported g, s.tasks⟩ :=
          ⟨h.locked, h.unique, h.latest, h.drawn, h.beforeSwap, h.inOrder⟩
        exact hreported.retask ht (fun _ hk => nomatch hk) fun hb _ => nomatch hb

theorem run (h : Serial s) (moves : List (Nat × Move)) : Serial (s.run moves) := by
  induction moves generalizing s with
  | nil => exact h
  | cons m moves ih => exact ih (h.step m.1 m.2)

end Serial

/-! ## Where identities come from -/

/-- An identity came whole with a move: with a direct replacement, or, to a task that drew a number,
as what two files held when it read them. -/
def Brought (moves : List (Nat × Move)) : Option Nat → Identity → Prop
  | none, i => ∃ n, (n, .replace i) ∈ moves
  | some _, i => ∃ n files cert key, (n, .read files cert key) ∈ moves ∧
      Identity.load files cert key = .ok i

/-- Whatever has been swapped in, or is about to be, came with a move of the run. -/
structure Provided (moves : List (Nat × Move)) (s : State) : Prop where
  swaps : ∀ w ∈ s.shared.swaps, Brought moves w.ticket w.identity
  tasks : ∀ ticket i, Task.swapping ticket i ∈ s.tasks → Brought moves ticket i

namespace Provided

variable {moves : List (Nat × Move)} {s : State} {n : Nat} {t t' : Task}

theorem initial (moves : List (Nat × Move)) (paths : IdentityPaths) (tasks : Nat) :
    Provided moves (State.initial paths tasks) where
  swaps := fun w hw => nomatch hw
  tasks := by
    intro ticket i h
    have := List.eq_of_mem_replicate h
    nomatch this

theorem retask (h : Provided moves s) {shared : Shared} (hshared : shared.swaps = s.shared.swaps)
    (ht' : ∀ ticket i, t' = .swapping ticket i → Brought moves ticket i) :
    Provided moves ⟨shared, s.tasks.set n t'⟩ where
  swaps := by
    show ∀ w ∈ shared.swaps, _
    rw [hshared]
    exact h.swaps
  tasks := by
    intro ticket i hi
    rcases List.mem_or_eq_of_mem_set hi with hi | hi
    · exact h.tasks ticket i hi
    · exact ht' ticket i hi.symm

theorem step (h : Provided moves s) {m : Move} (hm : (n, m) ∈ moves) :
    Provided moves (s.step n m) := by
  rcases s.step_cases n m with heq | ⟨t, shared, t', ht, htransition, heq⟩
  · rw [heq]
    exact h
  · have hmem := List.mem_of_getElem? ht
    rw [heq]
    cases htransition with
    | stays => exact h.retask rfl fun ticket i hi => h.tasks ticket i (hi ▸ hmem)
    | acquire hfree => exact h.retask rfl fun ticket i hi => nomatch hi
    | read hload =>
        refine h.retask rfl fun ticket i hi => ?_
        cases hi
        exact ⟨n, _, _, _, hm, hload⟩
    | readFails => exact h.retask rfl fun ticket i hi => nomatch hi
    | replace i =>
        refine h.retask rfl fun ticket j hj => ?_
        cases hj
        exact ⟨n, hm⟩
    | swap ticket i =>
        have hbrought : Brought moves ticket i := h.tasks ticket i hmem
        refine ⟨?_, ?_⟩
        · intro w hw
          rcases List.mem_append.mp hw with hw | hw
          · exact h.swaps w hw
          · rw [List.mem_singleton.mp hw]
            exact hbrought
        · intro ticket' j hj
          rcases List.mem_or_eq_of_mem_set hj with hj | hj
          · exact h.tasks ticket' j hj
          · exact Task.noConfusion hj
    | raise ticket changed =>
        refine h.retask rfl fun ticket' i hi => ?_
        cases ticket <;> exact Task.noConfusion hi
    | release ticket => exact h.retask rfl fun ticket i hi => nomatch hi
    | look => exact h.retask rfl fun ticket i hi => nomatch hi
    | count => exact h.retask rfl fun ticket i hi => nomatch hi
    | scrape => exact h.retask rfl fun ticket i hi => nomatch hi
    | report g => exact h.retask rfl fun ticket i hi => nomatch hi

theorem run (h : Provided moves s) {ms : List (Nat × Move)} (hms : ∀ m ∈ ms, m ∈ moves) :
    Provided moves (s.run ms) := by
  induction ms generalizing s with
  | nil => exact h
  | cons m ms ih =>
      exact ih (h.step (hms m (List.mem_cons_self ..))) fun x hx => hms x (List.mem_cons_of_mem m hx)

end Provided

/-! ## A task that nobody disturbs -/

/-- The steps of a load. -/
def loading (files : FileTree) (cert key : String) : List Move :=
  [.acquire, .read files cert key, .swap, .raise, .release]

/-- The steps of a direct replacement. -/
def replacing (i : Identity) : List Move :=
  [.replace i, .swap, .raise]

section
variable {s : State} {n : Nat} {t : Task}

/-- Steps of one task alone are its moves one after the other. -/
theorem run_alone (ht : s.tasks[n]? = some t) (ms : List Move) :
    (s.run (ms.map (n, ·))).shared = (ms.foldl (fun p m => move p.1 p.2 m) (s.shared, t)).1 ∧
    (s.run (ms.map (n, ·))).tasks[n]? =
      some (ms.foldl (fun p m => move p.1 p.2 m) (s.shared, t)).2 := by
  induction ms generalizing s t with
  | nil => exact ⟨rfl, ht⟩
  | cons m ms ih =>
      have hstep : s.step n m = ⟨(move s.shared t m).1, s.tasks.set n (move s.shared t m).2⟩ := by
        unfold State.step
        rw [ht]
      have htask : (s.step n m).tasks[n]? = some (move s.shared t m).2 := by
        rw [hstep]
        exact List.getElem?_set_self (List.getElem?_eq_some_iff.mp ht).1
      have hrest := ih htask
      rw [hstep] at hrest
      show (State.run (s.step n m) _).shared = _ ∧ (State.run (s.step n m) _).tasks[n]? = _
      rw [hstep]
      exact hrest

/-- A reader needs no lock, and is told what is so. -/
theorem answered_at_once (ht : s.tasks[n]? = some .idle) :
    (s.step n .look).shared = s.shared.answering (.identity s.shared.store.current) ∧
    (s.step n .count).shared = s.shared.answering (.generation s.shared.store.generation) := by
  unfold State.step
  rw [ht]
  exact ⟨rfl, rfl⟩

/-- A direct replacement that nobody disturbs installs its identity. -/
theorem replace_undisturbed (ht : s.tasks[n]? = some .idle) (i : Identity) :
    let s' := s.run ((replacing i).map (n, ·))
    s'.shared.store = (s.shared.store.install i).1 ∧ s'.tasks[n]? = some .idle := by
  obtain ⟨hshared, htask⟩ := run_alone ht (replacing i)
  refine ⟨?_, htask⟩
  rw [hshared, install_eq]
  rfl

/-- A load that nobody disturbs does what `CredentialStore.load` does, and gives the lock back. -/
theorem load_undisturbed (ht : s.tasks[n]? = some .idle) (hfree : s.shared.locked = false)
    (files : FileTree) (cert key : String) :
    let s' := s.run ((loading files cert key).map (n, ·))
    s'.shared.store = ((s.shared.store.load files cert key).toOption.map (·.1)).getD s.shared.store ∧
    s'.shared.locked = false ∧ s'.tasks[n]? = some .idle := by
  obtain ⟨hshared, htask⟩ := run_alone ht (loading files cert key)
  have hacquire : move s.shared .idle .acquire = (s.shared.acquired, .reading s.shared.tickets) := by
    simp only [move, hfree, Bool.false_eq_true, if_false]
  simp only [loading, List.foldl_cons, List.foldl_nil, hacquire] at hshared htask
  rw [load_eq]
  cases hload : Identity.load files cert key with
  | error e =>
      have hread : move s.shared.acquired (.reading s.shared.tickets) (.read files cert key) =
          (s.shared.acquired, .releasing s.shared.tickets) := by
        simp only [move, hload]
      rw [hread] at hshared htask
      exact ⟨(congrArg Shared.store hshared).trans rfl, (congrArg Shared.locked hshared).trans rfl,
        htask⟩
  | ok i =>
      have hread : move s.shared.acquired (.reading s.shared.tickets) (.read files cert key) =
          (s.shared.acquired, .swapping (some s.shared.tickets) i) := by
        simp only [move, hload]
      rw [hread] at hshared htask
      refine ⟨?_, (congrArg Shared.locked hshared).trans rfl, htask⟩
      refine (congrArg Shared.store hshared).trans ?_
      show _ = (s.shared.store.install i).1
      rw [install_eq]
      rfl

end

/-! ## Every run of any tasks -/

/-- Whatever loads, direct replacements, readers and scrapes do at once, and in whatever order.

Every identity read is none or that of one swap, the last before the reading, and came whole with a
move of the run; later readings are of later swaps.  The generation and the raises that are pending
make up the chain changes so far.  So whoever has read a generation and reads the identity after it
gets one that was installed by that chain change or later, and so does every scrape.  Loads hold
the lock one at a time and swap in the order in which they took it.

From wherever such a run has led, a reader is told at once what is current, a replacement that is
left alone installs its identity, and a load that is left alone and finds the lock free does what
a load does. -/
theorem generation_behind_identity (paths : IdentityPaths) (tasks : Nat)
    (moves : List (Nat × Move)) :
    let s := (State.initial paths tasks).run moves
    let swaps := s.shared.swaps
    let sightings := s.shared.sightings
    (∀ o ∈ sightings, ∀ i, o.answer = .identity i →
      o.moment ≤ swaps.length ∧ i = currentAfter swaps o.moment) ∧
    (∀ w ∈ swaps, Brought moves w.ticket w.identity) ∧
    sightings.Pairwise (·.moment ≤ ·.moment) ∧
    s.shared.store.current = currentAfter swaps swaps.length ∧
    s.shared.store.generation + s.pending = chainSwaps swaps ∧
    (∀ (j k : Nat) (o o' : Sighting) (g : Nat) (i : Option Identity), j < k →
      sightings[j]? = some o → sightings[k]? = some o' →
      o.answer = .generation g → 1 ≤ g → o'.answer = .identity i →
      ∃ x, i = some x ∧ InstalledSince swaps g x) ∧
    (∀ g i, (g, i) ∈ s.shared.reports → 1 ≤ g → ∃ x, i = some x ∧ InstalledSince swaps g x) ∧
    (∀ n n' k k', s.Holds n k → s.Holds n' k' → n = n') ∧
    (loadTickets swaps).Pairwise (· < ·) ∧
    (∀ n, s.tasks[n]? = some .idle →
      (s.step n .look).shared = s.shared.answering (.identity s.shared.store.current) ∧
      (s.step n .count).shared = s.shared.answering (.generation s.shared.store.generation)) ∧
    (∀ n i, s.tasks[n]? = some .idle →
      (s.run ((replacing i).map (n, ·))).shared.store = (s.shared.store.install i).1) ∧
    (∀ n files cert key, s.tasks[n]? = some .idle → s.shared.locked = false →
      (s.run ((loading files cert key).map (n, ·))).shared.store =
        ((s.shared.store.load files cert key).toOption.map (·.1)).getD s.shared.store) := by
  intro s swaps sightings
  have haccounted : Accounted s := (Accounted.initial paths tasks).run moves
  have hserial : Serial s := (Serial.initial paths tasks).run moves
  have hprovided : Provided moves s := (Provided.initial moves paths tasks).run fun _ hm => hm
  have hidentity (o : Sighting) (ho : o ∈ sightings) (i : Option Identity)
      (ha : o.answer = .identity i) : o.moment ≤ swaps.length ∧ i = currentAfter swaps o.moment := by
    obtain ⟨hle, hdated⟩ := haccounted.dated o ho
    rw [ha] at hdated
    exact ⟨hle, hdated⟩
  have hgeneration (o : Sighting) (ho : o ∈ sightings) (g : Nat) (ha : o.answer = .generation g) :
      g ≤ chainSwaps (swaps.take o.moment) := by
    obtain ⟨-, hdated⟩ := haccounted.dated o ho
    rw [ha] at hdated
    exact hdated
  have hsince {g m : Nat} (hpos : 1 ≤ g) (hm : m ≤ swaps.length)
      (hg : g ≤ chainSwaps (swaps.take m)) :
      ∃ x, currentAfter swaps m = some x ∧ InstalledSince swaps g x := by
    obtain ⟨p, hp, hlt⟩ := exists_isChange hpos hg
    exact currentAfter_of_isChange hp hlt hm
  refine ⟨hidentity, hprovided.swaps, haccounted.inOrder, haccounted.current,
    haccounted.generation, ?_, ?_, hserial.unique, hserial.inOrder, fun n hn => answered_at_once hn,
    fun n i hn => (replace_undisturbed hn i).1,
    fun n files cert key hn hfree => (load_undisturbed hn hfree files cert key).1⟩
  · intro j k o o' g i hjk hj hk ha hpos ha'
    have horder : o.moment ≤ o'.moment := by
      obtain ⟨hjl, rfl⟩ := List.getElem?_eq_some_iff.mp hj
      obtain ⟨hkl, rfl⟩ := List.getElem?_eq_some_iff.mp hk
      exact List.pairwise_iff_getElem.mp haccounted.inOrder j k hjl hkl hjk
    obtain ⟨hle, rfl⟩ := hidentity o' (List.mem_of_getElem? hk) i ha'
    have hg : g ≤ chainSwaps (swaps.take o'.moment) :=
      Nat.le_trans (hgeneration o (List.mem_of_getElem? hj) g ha) (chainSwaps_take_le swaps horder)
    exact hsince hpos hle hg
  · intro g i hr hpos
    obtain ⟨m, hm, hg, hi⟩ := haccounted.reports (g, i) hr
    obtain ⟨x, hx, hx'⟩ := hsince hpos hm hg
    exact ⟨x, hi.trans hx, hx'⟩

end CertRotation.CredentialStore.Interleaving
