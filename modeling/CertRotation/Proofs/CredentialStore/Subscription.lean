/-
# `Proofs.CredentialStore.Subscription` — subscribers miss no rotation and see no false one

One moment of a run raises the generation by one if it changes the chain, and leaves it otherwise.
So the generation counts the changes, and what a subscriber knows is the count at its last look:

    one moment      generation and chain change together, or neither does      (`step_generation`, `step_chain`)
    a run           the generation is the number of changes so far             (`generation_eq_count`)
    a subscriber    knows the generation of the moment that it saw last        (`subscription_of_seesLast`)

A broadcast of the generation goes by versions and not by values.  A version is raised exactly where
the generation is, so that its watchers know what the subscribers know (`Agrees.step`).
-/
import Mathlib.Data.Nat.Count
import CertRotation.CredentialStore.Watch
import CertRotation.Proofs.CredentialStore.RunLaw

namespace CertRotation.CredentialStore

/-! ## One moment -/

namespace Audience

section
variable (a : Audience) (m : Moment)

/-- The store after a moment: the identity that it brings is installed, if it brings one. -/
theorem step_store :
    (a.step m).1.store =
      match m.identity? a.store.paths with
      | some i => (a.store.install i).1
      | none => a.store := by
  cases m with
  | performed op =>
      cases hi : op.identity a.store.paths with
      | error e =>
          rw [step_of_error (by rw [Operation.attempt_eq, hi]; rfl)]
          simp only [Moment.identity?, hi, Except.toOption]
      | ok i =>
          rw [step_of_ok hi]
          simp only [Moment.identity?, hi, Except.toOption]
  | subscribed => rfl
  | looked n => rfl

theorem step_generation :
    (a.step m).1.store.generation =
      a.store.generation +
        if (m.identity? a.store.paths).any (changesChain a.store.current) then 1 else 0 := by
  rw [step_store]
  cases m.identity? a.store.paths with
  | none => rfl
  | some i => exact install_generation a.store i

/-- A moment that does not raise the generation leaves the chain. -/
theorem step_chain (h : (m.identity? a.store.paths).any (changesChain a.store.current) = false) :
    (a.step m).1.store.current.map (·.chain) = a.store.current.map (·.chain) := by
  rw [step_store]
  cases hi : m.identity? a.store.paths with
  | none => rfl
  | some i =>
      rw [hi, Option.any_some, changesChain] at h
      cases hj : a.store.current with
      | none =>
          rw [hj] at h
          exact Bool.noConfusion h
      | some j =>
          rw [hj, Option.any_some, Bool.not_eq_false', Identity.sharesChain] at h
          show (a.store.install i).1.current.map (·.chain) = some j.chain
          rw [install_current, Option.map_some, eq_of_beq h]

end
end Audience

/-! ## A run, moment by moment -/

section
variable (paths : IdentityPaths) (ms : List Moment)

theorem audienceAfter_snoc (m : Moment) :
    audienceAfter paths (ms ++ [m]) = ((audienceAfter paths ms).step m).1 := by
  unfold audienceAfter
  rw [Audience.steps_append]
  rfl

theorem audienceAfter_paths : (audienceAfter paths ms).store.paths = paths := by
  induction ms using List.reverseRecOn with
  | nil => rfl
  | append_singleton ms m ih => rw [audienceAfter_snoc, Audience.step_paths, ih]

/-- The current identity is the last that was installed. -/
theorem audienceAfter_current :
    (audienceAfter paths ms).store.current = (installed paths ms).getLast? :=
  ((Records.new paths).steps (a := ⟨new paths, []⟩) ms).current

/-- The moment at a position brings a change exactly if it raises the generation. -/
theorem changesAt_eq {m : Moment} {k : Nat} (h : ms[k]? = some m) :
    changesAt paths ms k =
      (m.identity? (audienceAfter paths (ms.take k)).store.paths).any
        (changesChain (audienceAfter paths (ms.take k)).store.current) := by
  rw [audienceAfter_paths, audienceAfter_current, changesAt, h, Option.bind_some]

theorem take_succ_of_getElem? {m : Moment} {k : Nat} (h : ms[k]? = some m) :
    ms.take (k + 1) = ms.take k ++ [m] := by
  rw [List.take_add_one, h]
  rfl

theorem take_succ_of_none {k : Nat} (h : ms[k]? = none) : ms.take (k + 1) = ms.take k := by
  rw [List.take_add_one, h]
  exact List.append_nil _

/-- The generation is the number of changes so far. -/
theorem generation_eq_count (k : Nat) :
    (audienceAfter paths (ms.take k)).store.generation =
      Nat.count (fun p => changesAt paths ms p = true) k := by
  induction k with
  | zero => rfl
  | succ k ih =>
      rw [Nat.count_succ, ← ih]
      cases hm : ms[k]? with
      | none =>
          have hnot : changesAt paths ms k = false := by rw [changesAt, hm]; rfl
          rw [take_succ_of_none ms hm, hnot]
          rfl
      | some m =>
          rw [take_succ_of_getElem? ms hm, audienceAfter_snoc, Audience.step_generation,
            changesAt_eq paths ms hm]

/-- Between two moments without a change the chain stays. -/
theorem chain_of_no_change {j k : Nat} (hjk : j ≤ k)
    (h : ∀ p, j ≤ p → p < k → changesAt paths ms p = false) :
    (audienceAfter paths (ms.take k)).store.current.map (·.chain) =
      (audienceAfter paths (ms.take j)).store.current.map (·.chain) := by
  induction k, hjk using Nat.le_induction with
  | base => rfl
  | succ k hjk ih =>
      rw [← ih fun p hjp hpk => h p hjp (Nat.lt_succ_of_lt hpk)]
      cases hm : ms[k]? with
      | none => rw [take_succ_of_none ms hm]
      | some m =>
          have hnot := h k hjk (Nat.lt_succ_self k)
          rw [changesAt_eq paths ms hm] at hnot
          rw [take_succ_of_getElem? ms hm, audienceAfter_snoc]
          exact Audience.step_chain _ _ hnot

theorem generation_le {j k : Nat} (h : j ≤ k) :
    (audienceAfter paths (ms.take j)).store.generation ≤
      (audienceAfter paths (ms.take k)).store.generation := by
  rw [generation_eq_count, generation_eq_count]
  exact Nat.count_monotone _ h

/-- The generation has been raised since a moment exactly if there has been a change since. -/
theorem generation_lt_iff {j k : Nat} :
    (audienceAfter paths (ms.take j)).store.generation <
        (audienceAfter paths (ms.take k)).store.generation ↔
      ∃ p, j ≤ p ∧ p < k ∧ changesAt paths ms p = true := by
  rw [generation_eq_count, generation_eq_count]
  constructor
  · intro h
    obtain ⟨d, rfl⟩ := Nat.exists_eq_add_of_lt (Nat.lt_of_count_lt_count h)
    rw [Nat.add_assoc, Nat.count_add] at h
    have hsome : Nat.count (fun p => changesAt paths ms (j + p) = true) (d + 1) ≠ 0 := by
      omega
    obtain ⟨p, hp, hchange⟩ := Nat.count_ne_iff_exists.mp hsome
    exact ⟨j + p, Nat.le_add_right j p, by omega, hchange⟩
  · rintro ⟨p, hjp, hpk, hchange⟩
    calc Nat.count (fun p => changesAt paths ms p = true) j
        ≤ Nat.count (fun p => changesAt paths ms p = true) p := Nat.count_monotone _ hjp
      _ < Nat.count (fun p => changesAt paths ms p = true) k := Nat.count_strict_mono hchange hpk

/-- Moments of one generation are moments of one chain. -/
theorem chain_of_generation_eq {j k : Nat}
    (h : (audienceAfter paths (ms.take j)).store.generation =
      (audienceAfter paths (ms.take k)).store.generation) :
    (audienceAfter paths (ms.take j)).store.current.map (·.chain) =
      (audienceAfter paths (ms.take k)).store.current.map (·.chain) := by
  have hnone {j k : Nat} (h : (audienceAfter paths (ms.take j)).store.generation =
      (audienceAfter paths (ms.take k)).store.generation) (p : Nat) (hjp : j ≤ p) (hpk : p < k) :
      changesAt paths ms p = false := by
    rw [Bool.eq_false_iff]
    intro hchange
    exact absurd ((generation_lt_iff paths ms).mpr ⟨p, hjp, hpk, hchange⟩) (by omega)
  rcases Nat.le_total j k with hjk | hkj
  · exact (chain_of_no_change paths ms hjk (hnone h)).symm
  · exact chain_of_no_change paths ms hkj (hnone h.symm)

end

/-! ## What a subscriber has seen -/

section
variable {ms : List Moment} {i k : Nat}

theorem sees_snoc_of_lt (m : Moment) (h : k < ms.length) :
    Sees (ms ++ [m]) i k ↔ Sees ms i k := by
  unfold Sees
  rw [List.getElem?_append_left h, List.take_append_of_le_length (Nat.le_of_lt h)]

theorem sees_snoc_length (m : Moment) :
    Sees (ms ++ [m]) i ms.length ↔
      (m = .subscribed ∧ joined ms = i) ∨ (m = .looked i ∧ i < joined ms) := by
  unfold Sees
  rw [List.getElem?_concat_length, List.take_left, Option.some.injEq, Option.some.injEq]

theorem Sees.lt_length (h : Sees ms i k) : k < ms.length := by
  rcases h with ⟨h, -⟩ | ⟨h, -⟩
  · exact (List.getElem?_eq_some_iff.mp h).1
  · exact (List.getElem?_eq_some_iff.mp h).1

theorem joined_snoc (ms : List Moment) (m : Moment) :
    joined (ms ++ [m]) = joined ms + if m.joins then 1 else 0 := by
  unfold joined
  rw [List.countP_append, List.countP_singleton]

/-- Of a run with one more moment, that moment is the last at which a subscriber sees anything, -/
theorem seesLast_snoc_length {m : Moment} (h : Sees (ms ++ [m]) i ms.length) :
    SeesLast (ms ++ [m]) i ms.length where
  sees := h
  last := by
    intro j hj
    have hlt := hj.lt_length
    rw [List.length_append, List.length_singleton] at hlt
    exact Nat.le_of_lt_succ hlt

/-- or it is the same as before. -/
theorem seesLast_snoc_iff {m : Moment} (h : ¬ Sees (ms ++ [m]) i ms.length) :
    SeesLast (ms ++ [m]) i k ↔ SeesLast ms i k := by
  have hbefore {j : Nat} (hj : Sees (ms ++ [m]) i j) : j < ms.length := by
    have hlt := hj.lt_length
    rw [List.length_append, List.length_singleton] at hlt
    rcases Nat.lt_succ_iff_lt_or_eq.mp hlt with hlt | rfl
    · exact hlt
    · exact absurd hj h
  constructor
  · rintro ⟨hsees, hlast⟩
    refine ⟨(sees_snoc_of_lt m (hbefore hsees)).mp hsees, ?_⟩
    intro j hj
    exact hlast j ((sees_snoc_of_lt m hj.lt_length).mpr hj)
  · rintro ⟨hsees, hlast⟩
    refine ⟨(sees_snoc_of_lt m hsees.lt_length).mpr hsees, ?_⟩
    intro j hj
    exact hlast j ((sees_snoc_of_lt m (hbefore hj)).mp hj)

/-- Whoever has joined has seen something, when it joined at the latest. -/
theorem exists_seesLast (h : i < joined ms) : ∃ k, SeesLast ms i k := by
  induction ms using List.reverseRecOn with
  | nil => exact absurd h (Nat.not_lt_zero i)
  | append_singleton ms m ih =>
      by_cases hend : Sees (ms ++ [m]) i ms.length
      · exact ⟨ms.length, seesLast_snoc_length hend⟩
      · have hearlier : i < joined ms := by
          rw [joined_snoc] at h
          by_cases hm : m = .subscribed
          · have hne : joined ms ≠ i := fun e => hend ((sees_snoc_length m).mpr (Or.inl ⟨hm, e⟩))
            rw [hm, Moment.joins, if_pos rfl] at h
            omega
          · have hjoins : m.joins = false := by
              cases m with
              | performed op => rfl
              | subscribed => exact absurd rfl hm
              | looked j => rfl
            rw [hjoins] at h
            exact h
        obtain ⟨k, hk⟩ := ih hearlier
        exact ⟨k, (seesLast_snoc_iff hend).mpr hk⟩

end

/-! ## What a subscriber knows -/

namespace Audience

variable {a : Audience} {m : Moment} {i : Nat}

/-- An operation tells nobody anything, whatever becomes of it. -/
theorem step_performed_subscriptions (a : Audience) (op : Operation) :
    (a.step (.performed op)).1.subscriptions = a.subscriptions := by
  cases h : op.attempt a.store with
  | error e => rw [step_of_error h]
  | ok r => simp only [step, h]

/-- A moment tells a subscriber the generation if it joins or looks then, -/
theorem step_subscription_self
    (h : (m = .subscribed ∧ a.subscriptions.length = i) ∨
      (m = .looked i ∧ i < a.subscriptions.length)) :
    (a.step m).1.subscriptions[i]? = some ⟨(a.step m).1.store.generation⟩ := by
  rcases h with ⟨rfl, rfl⟩ | ⟨rfl, hi⟩
  · exact List.getElem?_concat_length
  · exact List.getElem?_set_self hi

/-- and nothing otherwise. -/
theorem step_subscription_of_not
    (h : ¬ ((m = .subscribed ∧ a.subscriptions.length = i) ∨
      (m = .looked i ∧ i < a.subscriptions.length))) :
    (a.step m).1.subscriptions[i]? = a.subscriptions[i]? := by
  rw [not_or] at h
  obtain ⟨hjoins, hlooks⟩ := h
  cases m with
  | performed op => rw [step_performed_subscriptions]
  | subscribed =>
      have hne : a.subscriptions.length ≠ i := fun e => hjoins ⟨rfl, e⟩
      show (a.subscriptions ++ [a.store.subscribe])[i]? = a.subscriptions[i]?
      rcases Nat.lt_or_ge i a.subscriptions.length with hlt | hge
      · exact List.getElem?_append_left hlt
      · have hbeyond : (a.subscriptions ++ [a.store.subscribe]).length ≤ i := by
          rw [List.length_append, List.length_singleton]
          omega
        rw [List.getElem?_eq_none hge, List.getElem?_eq_none hbeyond]
  | looked j =>
      show (a.subscriptions.set j a.store.subscribe)[i]? = a.subscriptions[i]?
      by_cases hj : j = i
      · have hge : a.subscriptions.length ≤ i :=
          Nat.le_of_not_lt fun hlt => hlooks ⟨by rw [hj], hlt⟩
        rw [List.set_eq_of_length_le (hj ▸ hge)]
      · exact List.getElem?_set_ne hj

theorem length_step_subscriptions (a : Audience) (m : Moment) :
    (a.step m).1.subscriptions.length = a.subscriptions.length + if m.joins then 1 else 0 := by
  cases m with
  | performed op =>
      rw [step_performed_subscriptions]
      rfl
  | subscribed => exact List.length_append
  | looked j => exact List.length_set

end Audience

section
variable (paths : IdentityPaths) (ms : List Moment)

theorem length_subscriptions : (audienceAfter paths ms).subscriptions.length = joined ms := by
  induction ms using List.reverseRecOn with
  | nil => rfl
  | append_singleton ms m ih =>
      rw [audienceAfter_snoc, Audience.length_step_subscriptions, ih, joined_snoc]

/-- A subscriber knows the generation of the moment at which it saw the store last. -/
theorem subscription_of_seesLast {i k : Nat} (h : SeesLast ms i k) :
    (audienceAfter paths ms).subscriptions[i]? =
      some ⟨(audienceAfter paths (ms.take (k + 1))).store.generation⟩ := by
  induction ms using List.reverseRecOn with
  | nil => exact absurd h.sees.lt_length (Nat.not_lt_zero k)
  | append_singleton ms m ih =>
      have hcases : Sees (ms ++ [m]) i ms.length ↔ _ := sees_snoc_length m
      rw [← length_subscriptions paths ms] at hcases
      by_cases hend : Sees (ms ++ [m]) i ms.length
      · have hk : k = ms.length :=
          Nat.le_antisymm ((seesLast_snoc_length hend).last k h.sees) (h.last _ hend)
        have hall : (ms ++ [m]).take (k + 1) = ms ++ [m] := by
          rw [hk]
          exact List.take_of_length_le (Nat.le_of_eq List.length_append)
        rw [hall, audienceAfter_snoc]
        exact Audience.step_subscription_self (hcases.mp hend)
      · have hbefore := (seesLast_snoc_iff hend).mp h
        have htake : (ms ++ [m]).take (k + 1) = ms.take (k + 1) :=
          List.take_append_of_le_length hbefore.sees.lt_length
        rw [htake, audienceAfter_snoc, ← ih hbefore]
        exact Audience.step_subscription_of_not fun hself => hend (hcases.mpr hself)

/-- There is news for a subscriber exactly if the generation exceeds what it saw last. -/
theorem hasNews_iff_lt {i k : Nat} (h : SeesLast ms i k) :
    (audienceAfter paths ms).hasNews i = true ↔
      (audienceAfter paths (ms.take (k + 1))).store.generation <
        (audienceAfter paths ms).store.generation := by
  have hle := generation_le paths ms (j := k + 1) (k := ms.length) h.sees.lt_length
  rw [List.take_length] at hle
  rw [Audience.hasNews, subscription_of_seesLast paths ms h, Option.any_some, hasChanged, bne_iff_ne]
  constructor
  · intro hne
    exact Nat.lt_of_le_of_ne hle (Ne.symm hne)
  · intro hlt
    exact Nat.ne_of_gt hlt

/-- There is news for a subscriber exactly if the chain has changed since it saw the store last. -/
theorem hasNews_iff_changesAt {i k : Nat} (h : SeesLast ms i k) :
    (audienceAfter paths ms).hasNews i = true ↔ ∃ p, k < p ∧ changesAt paths ms p = true := by
  have hlt := generation_lt_iff paths ms (j := k + 1) (k := ms.length)
  rw [List.take_length] at hlt
  rw [hasNews_iff_lt paths ms h, hlt]
  constructor
  · rintro ⟨p, hkp, -, hchange⟩
    exact ⟨p, hkp, hchange⟩
  · rintro ⟨p, hkp, hchange⟩
    refine ⟨p, hkp, ?_, hchange⟩
    by_contra hbeyond
    have hnone : ms[p]? = none := List.getElem?_eq_none (Nat.le_of_not_lt hbeyond)
    rw [changesAt, hnone] at hchange
    nomatch hchange

/-- A moment that changes no chain and shows a subscriber nothing is no news to it. -/
theorem hasNews_of_no_change {i k : Nat} (hchange : changesAt paths ms k = false)
    (hsees : ¬ Sees ms i k) :
    (audienceAfter paths (ms.take (k + 1))).hasNews i = (audienceAfter paths (ms.take k)).hasNews i := by
  cases hm : ms[k]? with
  | none => rw [take_succ_of_none ms hm]
  | some m =>
      have hgeneration : (audienceAfter paths (ms.take (k + 1))).store.generation =
          (audienceAfter paths (ms.take k)).store.generation := by
        rw [generation_eq_count, generation_eq_count, Nat.count_succ, hchange]
        rfl
      have hsubscription : (audienceAfter paths (ms.take (k + 1))).subscriptions[i]? =
          (audienceAfter paths (ms.take k)).subscriptions[i]? := by
        rw [take_succ_of_getElem? ms hm, audienceAfter_snoc]
        refine Audience.step_subscription_of_not fun hself => hsees ?_
        rw [length_subscriptions] at hself
        unfold Sees
        rw [hm]
        exact hself.imp (And.imp_left (congrArg some)) (And.imp_left (congrArg some))
      unfold Audience.hasNews hasChanged
      rw [hsubscription, hgeneration]

end

/-! ## What a watcher knows -/

/-- A broadcast shows what a store shows, and its watchers know what the subscribers know. -/
structure Agrees (a : Audience) (b : Broadcast) : Prop where
  current : b.current = a.store.current
  value : b.generation.value = a.store.generation
  version : b.generation.version = a.store.generation
  watchers : b.watchers = a.subscriptions.map fun s => ⟨s.seen⟩

namespace Agrees

variable {a : Audience} {b : Broadcast}

theorem replace (h : Agrees a b) (i : Identity) :
    Agrees { a with store := (a.store.install i).1 } (b.replace i) := by
  rw [install_eq, ← h.current]
  unfold Broadcast.replace
  by_cases hchange : changesChain b.current i = true
  · rw [if_pos hchange, if_pos hchange]
    exact ⟨rfl, congrArg (· + 1) h.value, congrArg (· + 1) h.version, h.watchers⟩
  · rw [if_neg hchange, if_neg hchange]
    exact ⟨rfl, h.value, h.version, h.watchers⟩

theorem watcher (h : Agrees a b) : b.generation.watcher = ⟨a.store.subscribe.seen⟩ := by
  rw [Watched.watcher, h.version]
  rfl

/-- The version is raised exactly where the generation is. -/
theorem step (h : Agrees a b) (m : Moment) : Agrees (a.step m).1 (b.step a.store.paths m) := by
  cases m with
  | performed op =>
      cases hi : op.identity a.store.paths with
      | error e =>
          rw [Audience.step_of_error (by rw [Operation.attempt_eq, hi]; rfl)]
          simp only [Broadcast.step, hi]
          exact h
      | ok i =>
          rw [Audience.step_of_ok hi]
          simp only [Broadcast.step, hi]
          exact h.replace i
  | subscribed =>
      refine ⟨h.current, h.value, h.version, ?_⟩
      show b.watchers ++ [b.generation.watcher] = (a.subscriptions ++ [a.store.subscribe]).map _
      rw [List.map_append, h.watchers, h.watcher]
      rfl
  | looked i =>
      refine ⟨h.current, h.value, h.version, ?_⟩
      show b.watchers.set i b.generation.watcher = (a.subscriptions.set i a.store.subscribe).map _
      rw [List.map_set, h.watchers, h.watcher]

theorem run (paths : IdentityPaths) (ms : List Moment) :
    Agrees (audienceAfter paths ms) (Broadcast.run paths ms) := by
  induction ms using List.reverseRecOn with
  | nil => exact ⟨rfl, rfl, rfl, rfl⟩
  | append_singleton ms m ih =>
      have hstep := ih.step m
      rw [audienceAfter_paths] at hstep
      rw [audienceAfter_snoc, Broadcast.run, List.foldl_append]
      exact hstep

theorem hasChanged (h : Agrees a b) (i : Nat) : b.hasChanged i = a.hasNews i := by
  unfold Broadcast.hasChanged Audience.hasNews
  rw [h.watchers, List.getElem?_map]
  cases a.subscriptions[i]? with
  | none => rfl
  | some s =>
      show (b.generation.version != s.seen) = (a.store.generation != s.seen)
      rw [h.version]

end Agrees

/-- Every subscriber is told of every rotation since it last saw the store, and of nothing else.  The
generation is broadcast by version; a watcher finds it changed exactly if an install has changed the
chain since the watcher joined or looked last, which is to say that the generation now exceeds the one
that it saw then, and it is the generation that it then reads.  Moments that change no chain are no
news.  Over a run, watched or not, the generation counts the changes: it never falls, and as long as it
stays the same, the chain does. -/
theorem rotations_reach_subscribers (paths : IdentityPaths) (ms : List Moment) :
    let after (k : Nat) : Audience := audienceAfter paths (ms.take k)
    let now := audienceAfter paths ms
    let broadcast := Broadcast.run paths ms
    (∀ i < joined ms, ∃ k, SeesLast ms i k ∧
      (broadcast.hasChanged i = true ↔ ∃ p, k < p ∧ changesAt paths ms p = true) ∧
      (broadcast.hasChanged i = true ↔ (after (k + 1)).store.generation < now.store.generation) ∧
      now.hasNews i = broadcast.hasChanged i ∧
      now.subscriptions[i]? = some ⟨(after (k + 1)).store.generation⟩) ∧
    broadcast.generation.value = now.store.generation ∧
    (∀ i k, changesAt paths ms k = false → ¬ Sees ms i k →
      (Broadcast.run paths (ms.take (k + 1))).hasChanged i =
        (Broadcast.run paths (ms.take k)).hasChanged i) ∧
    (∀ k, (after k).store.generation = Nat.count (fun p => changesAt paths ms p = true) k) ∧
    (∀ j k, j ≤ k → (after j).store.generation ≤ (after k).store.generation) ∧
    (∀ j k, (after j).store.generation = (after k).store.generation →
      (after j).store.current.map (·.chain) = (after k).store.current.map (·.chain)) := by
  intro after now broadcast
  have hbroadcast (ms : List Moment) (i : Nat) :
      (Broadcast.run paths ms).hasChanged i = (audienceAfter paths ms).hasNews i :=
    (Agrees.run paths ms).hasChanged i
  refine ⟨?_, (Agrees.run paths ms).value, ?_, generation_eq_count paths ms, ?_, ?_⟩
  · intro i hi
    obtain ⟨k, hk⟩ := exists_seesLast hi
    refine ⟨k, hk, ?_, ?_, (hbroadcast ms i).symm, subscription_of_seesLast paths ms hk⟩
    · rw [hbroadcast ms i]
      exact hasNews_iff_changesAt paths ms hk
    · rw [hbroadcast ms i]
      exact hasNews_iff_lt paths ms hk
  · intro i k hchange hsees
    rw [hbroadcast, hbroadcast]
    exact hasNews_of_no_change paths ms hchange hsees
  · intro j k h
    exact generation_le paths ms h
  · intro j k h
    exact chain_of_generation_eq paths ms h

end CertRotation.CredentialStore
