/-
# `Proofs.Requester.Loop` — greetings by turns, until a failure or a cancellation

One pass of the loop is one request.  All that a run can do is said once, pass by pass (`Course`),
and what holds of a run is shown along its course:

    the steps are those of the answered requests, and of a failed one at the end   (`Course.stands`)
    no step is before the instant at which the run is taken up, none before another (`Course.inOrder`)
    once cancelled, a run begins the requests of one pair at most                  (`Course.atMostTwo`)

The last needs a pause that takes some time: then a cancellation that has come before the pause
comes before its end, and no run goes on after that.
-/
import Mathlib.Data.List.Range
import CertRotation.Requester.Turn

namespace CertRotation.Requester

open Net

/-! ## Turns -/

theorem greetingAt_zero : greetingAt 0 = .hello := rfl

theorem greetingAt_succ {k : Nat} (h : greetingAt k = .hello) : greetingAt (k + 1) = .helloAgain := by
  unfold greetingAt at h ⊢
  split at h
  · rename_i heven
    rw [if_neg (by omega)]
  · nomatch h

theorem greetingAt_succ_again {k : Nat} (h : greetingAt k = .helloAgain) :
    greetingAt (k + 1) = .hello := by
  unfold greetingAt at h ⊢
  split at h
  · nomatch h
  · rename_i hodd
    rw [if_pos (by omega)]

theorem even_of_greetingAt {k : Nat} (h : greetingAt k = .hello) : k % 2 = 0 := by
  unfold greetingAt at h
  split at h
  · assumption
  · nomatch h

section
variable {r : Requester} {k : Nat} {p : Peer} {ps : List Peer}

theorem outcomesFrom_cons :
    r.outcomesFrom k (p :: ps) = r.request (greetingAt k) p :: r.outcomesFrom (k + 1) ps := by
  unfold outcomesFrom
  rw [List.mapIdx_cons, Nat.add_zero]
  congr 2
  funext i q
  rw [Nat.add_assoc, Nat.add_comm 1 i]

theorem length_outcomesFrom : (r.outcomesFrom k ps).length = ps.length :=
  List.length_mapIdx

end

/-! ## The course of a run -/

section
variable (r : Requester) (interval : Nat) (c : Cancellation)

/-- All that a run can do that is taken up at a number of requests and at an instant. -/
inductive Course : Nat → Nat → List Peer → Run → Prop
  | waits (k now : Nat) : Course k now [] {}
  | fails {k now : Nat} {p : Peer} (ps : List Peer) {e : Failure} :
      r.request (greetingAt k) p = .error e → Course k now (p :: ps) (.failed now (greetingAt k) e)
  | turns {k now answered : Nat} {p : Peer} {ps : List Peer} {reply : String} {rest : Run} :
      greetingAt k = .hello → r.request .hello p = .ok reply → now ≤ answered →
      Course (k + 1) answered ps rest → Course k now (p :: ps) (.afterReply now .hello answered reply rest)
  | stops {k now answered t : Nat} {p : Peer} (ps : List Peer) {reply : String} :
      greetingAt k = .helloAgain → r.request .helloAgain p = .ok reply → now ≤ answered →
      c.moment = some t → t ≤ answered + interval →
      Course k now (p :: ps) (.afterReply now .helloAgain answered reply .stopped)
  | pauses {k now answered : Nat} {p : Peer} {ps : List Peer} {reply : String} {rest : Run} :
      greetingAt k = .helloAgain → r.request .helloAgain p = .ok reply → now ≤ answered →
      (∀ t, c.moment = some t → answered + interval ≤ t) → Course (k + 1) (answered + interval) ps rest →
      Course k now (p :: ps) (.afterReply now .helloAgain answered reply rest)

end

section
variable {c : Cancellation} {pauseEnd : Nat}

theorem Cancellation.endsPause_iff : c.endsPause pauseEnd = true ↔
    ∃ t, c.moment = some t ∧ (t < pauseEnd ∨ t = pauseEnd ∧ c.winsTie = true) := by
  unfold endsPause
  cases c.moment with
  | none => simp
  | some t => simp

end

theorem course_runFrom (r : Requester) (interval : Nat) (c : Cancellation) {g : Greeting} {k : Nat}
    (hk : greetingAt k = g) (now : Nat) (peers : List Peer) :
    Course r interval c k now peers (r.runFrom interval c g now peers) := by
  induction peers generalizing g k now with
  | nil => exact .waits k now
  | cons p ps ih =>
      rw [runFrom]
      cases hrequest : r.request g p with
      | error e =>
          rw [← hk] at hrequest ⊢
          exact .fails ps hrequest
      | ok reply =>
          cases g with
          | hello =>
              exact .turns hk hrequest (Nat.le_add_right _ _) (ih (greetingAt_succ hk) _)
          | helloAgain =>
              by_cases hends : c.endsPause (now + r.elapsed .helloAgain p + interval) = true
              · obtain ⟨t, hmoment, ht⟩ := Cancellation.endsPause_iff.mp hends
                simp only [hends, if_true]
                exact .stops ps hk hrequest (Nat.le_add_right _ _) hmoment (by omega)
              · simp only [hends]
                refine .pauses hk hrequest (Nat.le_add_right _ _) ?_ (ih (greetingAt_succ_again hk) _)
                intro t hmoment
                by_contra hlate
                exact hends (Cancellation.endsPause_iff.mpr ⟨t, hmoment, Or.inl (by omega)⟩)

/-! ## The steps of a run -/

/-- The steps of answered requests, numbered from `k` on. -/
def talkFrom (k : Nat) : List String → List Step
  | [] => []
  | t :: ts => .opens (greetingAt k) :: .prints t :: talkFrom (k + 1) ts

theorem greetings_talkFrom (k : Nat) (ts : List String) :
    (talkFrom k ts).filterMap Step.greeting? = (List.range' k ts.length).map greetingAt := by
  induction ts generalizing k with
  | nil => rfl
  | cons t ts ih =>
      show greetingAt k :: (talkFrom (k + 1) ts).filterMap Step.greeting? = _
      rw [ih, List.length_cons, List.range'_succ, List.map_cons]

theorem replies_talkFrom (k : Nat) (ts : List String) :
    (talkFrom k ts).filterMap Step.reply? = ts := by
  induction ts generalizing k with
  | nil => rfl
  | cons t ts ih =>
      show t :: (talkFrom (k + 1) ts).filterMap Step.reply? = _
      rw [ih]

/-- Between the steps of answered requests, and behind them, a connection is opened only when every
reply before it has been printed. -/
theorem replies_eq_of_opens {k : Nat} {ts : List String} {tail before later : List Step} {s : Step}
    (htail : tail.length ≤ 1) (h : talkFrom k ts ++ tail = before ++ s :: later)
    (hs : s.greeting? ≠ none) :
    (before.filterMap Step.reply?).length = (before.filterMap Step.greeting?).length := by
  induction ts generalizing k before with
  | nil =>
      have hlength := congrArg List.length h
      have hnil : before.length = 0 := by
        simp only [talkFrom, List.nil_append, List.length_append, List.length_cons] at hlength
        omega
      rw [List.length_eq_zero_iff.mp hnil]
      rfl
  | cons t ts ih =>
      rcases before with _ | ⟨a, _ | ⟨b, before⟩⟩
      · rfl
      · have hprints : Step.prints t = s := (List.cons.inj (List.cons.inj h).2).1
        rw [← hprints] at hs
        exact absurd rfl hs
      · obtain ⟨ha, hrest⟩ := List.cons.inj h
        obtain ⟨hb, hrest⟩ := List.cons.inj hrest
        rw [← ha, ← hb]
        show (t :: before.filterMap Step.reply?).length =
          (greetingAt k :: before.filterMap Step.greeting?).length
        rw [List.length_cons, List.length_cons, ih hrest]

/-- How a run ends behind some replies: with a failure, with a cancellation behind a pair, or not at
all, for want of peers. -/
inductive Ends (k : Nat) (peers : List Peer) (replies : List String) :
    Option Failure → Option (Except Failure Unit) → Prop
  | failed (e : Failure) : Ends k peers replies (some e) (some (.error e))
  | stopped : replies ≠ [] → greetingAt (k + replies.length) = .hello →
      Ends k peers replies none (some (.ok ()))
  | waiting : replies.length = peers.length → Ends k peers replies none none

/-- How a run stands that has printed some replies and then perhaps met a failure. -/
structure Stands (r : Requester) (k : Nat) (peers : List Peer) (run : Run) (replies : List String)
    (failure : Option Failure) : Prop where
  values : run.steps.map (·.value) =
    talkFrom k replies ++ failure.toList.map fun _ => .opens (greetingAt (k + replies.length))
  outcomes : (r.outcomesFrom k peers).take (replies.length + failure.toList.length) =
    replies.map .ok ++ failure.toList.map .error
  ends : Ends k peers replies failure run.result

section
variable {r : Requester} {interval : Nat} {c : Cancellation} {k now : Nat} {peers : List Peer}
  {run : Run}

/-- An answered request comes before what a run comes to from the next number on. -/
theorem Stands.answered {p : Peer} {ps : List Peer} {rest : Run} {reply : String}
    {replies : List String} {failure : Option Failure}
    (hrequest : r.request (greetingAt k) p = .ok reply) (h : Stands r (k + 1) ps rest replies failure)
    (start answered : Nat) :
    Stands r k (p :: ps) (.afterReply start (greetingAt k) answered reply rest) (reply :: replies)
      failure := by
  have hnumber : k + 1 + replies.length = k + (reply :: replies).length := by
    rw [List.length_cons]
    omega
  have hcount : (reply :: replies).length + failure.toList.length =
      replies.length + failure.toList.length + 1 := by
    rw [List.length_cons]
    omega
  refine ⟨?_, ?_, ?_⟩
  · show Step.opens (greetingAt k) :: .prints reply :: rest.steps.map (·.value) = _
    rw [h.values, hnumber]
    rfl
  · rw [outcomesFrom_cons, hcount, List.take_succ_cons, h.outcomes, hrequest]
    rfl
  · show Ends k (p :: ps) (reply :: replies) failure rest.result
    have hends := h.ends
    generalize rest.result = result at hends
    cases hends with
    | failed e => exact .failed e
    | stopped _ hturn => exact .stopped (List.cons_ne_nil _ _) (hnumber ▸ hturn)
    | waiting hlength => exact .waiting (by rw [List.length_cons, List.length_cons, hlength])

/-- The steps of a run are those of its answered requests, and one more if a request failed. -/
theorem Course.stands (h : Course r interval c k now peers run) :
    ∃ replies failure, Stands r k peers run replies failure := by
  induction h with
  | waits k now => exact ⟨[], none, rfl, rfl, .waiting rfl⟩
  | @fails k now p ps e hrequest =>
      refine ⟨[], some e, rfl, ?_, .failed e⟩
      rw [outcomesFrom_cons, hrequest]
      rfl
  | turns hk hrequest _ _ ih =>
      obtain ⟨replies, failure, hstands⟩ := ih
      rw [← hk] at hrequest ⊢
      exact ⟨_, failure, hstands.answered hrequest _ _⟩
  | @stops k now answered t p ps reply hk hrequest _ _ _ =>
      have hturn := greetingAt_succ_again hk
      rw [← hk] at hrequest ⊢
      refine ⟨[reply], none, rfl, ?_, .stopped (List.cons_ne_nil _ _) hturn⟩
      rw [outcomesFrom_cons, hrequest]
      rfl
  | pauses hk hrequest _ _ _ ih =>
      obtain ⟨replies, failure, hstands⟩ := ih
      rw [← hk] at hrequest ⊢
      exact ⟨_, failure, hstands.answered hrequest _ _⟩

/-! ## The instants of a run -/

/-- No step of a run is before the instant at which it is taken up, and none is before another. -/
theorem Course.inOrder (h : Course r interval c k now peers run) :
    (∀ s ∈ run.steps, now ≤ s.after) ∧ run.steps.Pairwise (·.after ≤ ·.after) := by
  have hcons {start answered later : Nat} {g : Greeting} {reply : String} {rest : Run}
      (hanswered : start ≤ answered) (hlater : answered ≤ later)
      (hrest : (∀ s ∈ rest.steps, later ≤ s.after) ∧ rest.steps.Pairwise (·.after ≤ ·.after)) :
      (∀ s ∈ (Run.afterReply start g answered reply rest).steps, start ≤ s.after) ∧
        (Run.afterReply start g answered reply rest).steps.Pairwise (·.after ≤ ·.after) := by
    have hbehind : ∀ s ∈ rest.steps, answered ≤ s.after :=
      fun s hs => Nat.le_trans hlater (hrest.1 s hs)
    have hprints : ∀ s ∈ (⟨answered, .prints reply⟩ : Timed Step) :: rest.steps, start ≤ s.after := by
      intro s hs
      rcases List.mem_cons.mp hs with rfl | hs
      · exact hanswered
      · exact Nat.le_trans hanswered (hbehind s hs)
    constructor
    · intro s hs
      rcases List.mem_cons.mp hs with rfl | hs
      · exact Nat.le_refl start
      · exact hprints s hs
    · exact List.pairwise_cons.mpr ⟨hprints, List.pairwise_cons.mpr ⟨hbehind, hrest.2⟩⟩
  induction h with
  | waits k now => exact ⟨fun s hs => absurd hs List.not_mem_nil, List.Pairwise.nil⟩
  | fails ps hrequest =>
      refine ⟨?_, List.pairwise_singleton _ _⟩
      intro s hs
      rw [List.mem_singleton.mp hs]
  | turns _ _ hanswered _ ih => exact hcons hanswered (Nat.le_refl _) ih
  | stops ps _ _ hanswered _ _ =>
      exact hcons hanswered (Nat.le_refl _)
        ⟨fun s hs => absurd hs List.not_mem_nil, List.Pairwise.nil⟩
  | pauses _ _ hanswered _ _ ih => exact hcons hanswered (Nat.le_add_right _ _) ih

/-- A run that ends well was cancelled before its last pause was over. -/
theorem Course.cancelled (h : Course r interval c k now peers run) (hok : run.result = some (.ok ())) :
    ∃ t last, c.moment = some t ∧ run.steps.getLast? = some last ∧ t ≤ last.after + interval := by
  have hlast {start answered : Nat} {g : Greeting} {reply : String} {rest : Run} {last : Timed Step}
      (hrest : rest.steps.getLast? = some last) :
      (Run.afterReply start g answered reply rest).steps.getLast? = some last := by
    show (_ :: _ :: rest.steps).getLast? = _
    rw [List.getLast?_cons, List.getLast?_cons, hrest]
    rfl
  induction h with
  | waits k now => nomatch hok
  | fails ps hrequest => nomatch hok
  | turns _ _ _ _ ih =>
      obtain ⟨t, last, hmoment, hsteps, ht⟩ := ih hok
      exact ⟨t, last, hmoment, hlast hsteps, ht⟩
  | stops ps _ _ _ hmoment ht => exact ⟨_, _, hmoment, rfl, ht⟩
  | pauses _ _ _ _ _ ih =>
      obtain ⟨t, last, hmoment, hsteps, ht⟩ := ih hok
      exact ⟨t, last, hmoment, hlast hsteps, ht⟩

/-- The requests of a run that begin at an instant or later. -/
def Run.begunSince (run : Run) (t : Nat) : List (Nat × Greeting) :=
  run.begun.filter fun b => t ≤ b.1

theorem begunSince_afterReply (start : Nat) (g : Greeting) (answered : Nat) (reply : String)
    (rest : Run) (t : Nat) :
    ((Run.afterReply start g answered reply rest).begunSince t).length =
      (if t ≤ start then 1 else 0) + (rest.begunSince t).length := by
  show (List.filter _ ((start, g) :: rest.begun)).length = _
  rw [List.filter_cons]
  by_cases ht : t ≤ start
  · simp only [ht, decide_true, if_true, List.length_cons]
    exact Nat.add_comm _ _
  · simp only [ht, decide_false, if_false, Bool.false_eq_true]
    exact (Nat.zero_add _).symm

/-- A cancelled run begins two requests at most, and one at most if it is at the second of a pair. -/
theorem Course.atMostTwo (hinterval : 0 < interval) (h : Course r interval c k now peers run) {t : Nat}
    (ht : c.moment = some t) :
    (run.begunSince t).length ≤ 2 ∧
      (greetingAt k = .helloAgain → t ≤ now → (run.begunSince t).length ≤ 1) := by
  induction h with
  | waits k now => exact ⟨Nat.zero_le _, fun _ _ => Nat.zero_le _⟩
  | fails ps hrequest =>
      have hone : ∀ b : Nat × Greeting, ([b].filter fun b => decide (t ≤ b.1)).length ≤ 1 :=
        fun b => List.length_filter_le _ _
      exact ⟨Nat.le_succ_of_le (hone _), fun _ _ => hone _⟩
  | turns hk _ hanswered _ ih =>
      rw [begunSince_afterReply]
      obtain ⟨htwo, hone⟩ := ih
      constructor
      · split
        · have hrest := hone (greetingAt_succ hk) (by omega)
          omega
        · omega
      · intro hagain
        rw [hk] at hagain
        nomatch hagain
  | stops ps _ _ _ _ _ =>
      rw [begunSince_afterReply]
      have hnone : (Run.stopped.begunSince t).length = 0 := rfl
      rw [hnone]
      constructor
      · split <;> omega
      · intro _ _
        split <;> omega
  | pauses _ _ hanswered hpause _ ih =>
      -- The pause was not cut short, so the cancellation comes at its end or later.
      rw [begunSince_afterReply]
      have hlate := hpause t ht
      rw [if_neg (by omega), Nat.zero_add]
      exact ⟨ih.1, fun _ hnow => absurd hnow (by omega)⟩

end

/-! ## Orderly runs -/

section
variable {r : Requester} {peers : List Peer} {run : Run} {replies : List String}
  {failure : Option Failure}

theorem greetings_begun (run : Run) :
    run.begun.map (·.2) = (run.steps.map (·.value)).filterMap Step.greeting? := by
  unfold Run.begun
  rw [List.map_filterMap, List.filterMap_map]
  congr 1
  funext s
  simp only [Option.map_map, Function.comp_def, Option.map_id']

/-- A run has opened a connection for each of its replies, and one more if a request failed. -/
theorem Stands.greetings (h : Stands r 0 peers run replies failure) :
    run.begun.map (·.2) = (List.range (replies.length + failure.toList.length)).map greetingAt := by
  rw [greetings_begun, h.values, List.filterMap_append, greetings_talkFrom, ← List.range_eq_range']
  cases failure with
  | none => exact List.append_nil _
  | some e =>
      show _ ++ [greetingAt (0 + replies.length)] = (List.range (replies.length + 1)).map greetingAt
      rw [List.range_succ, List.map_append, Nat.zero_add]
      rfl

theorem Stands.length_begun (h : Stands r 0 peers run replies failure) :
    run.begun.length = replies.length + failure.toList.length := by
  have hlength := congrArg List.length h.greetings
  rwa [List.length_map, List.length_map, List.length_range] at hlength

theorem Stands.printed (h : Stands r 0 peers run replies failure) : run.printed = replies := by
  have hprinted : run.printed = (run.steps.map (·.value)).filterMap Step.reply? := by
    rw [List.filterMap_map]
    rfl
  rw [hprinted, h.values, List.filterMap_append, replies_talkFrom]
  cases failure with
  | none => exact List.append_nil _
  | some e => exact List.append_nil _

theorem Stands.outcomes_eq (h : Stands r 0 peers run replies failure) :
    run.outcomes r peers = replies.map .ok ++ failure.toList.map .error := by
  rw [Run.outcomes, h.length_begun, h.outcomes]

/-- Of the requests that a run has begun, only one that ends it can have failed. -/
theorem Stands.failure_iff (h : Stands r 0 peers run replies failure) {i : Nat} {e : Failure} :
    (run.outcomes r peers)[i]? = some (Except.error e) ↔ i = replies.length ∧ failure = some e := by
  rw [h.outcomes_eq]
  rcases Nat.lt_or_ge i replies.length with hi | hi
  · rw [List.getElem?_append_left (by rw [List.length_map]; exact hi), List.getElem?_map,
      List.getElem?_eq_getElem hi]
    constructor
    · intro hok
      nomatch Option.some.inj hok
    · rintro ⟨heq, -⟩
      exact absurd heq (Nat.ne_of_lt hi)
  · rw [List.getElem?_append_right (by rw [List.length_map]; exact hi), List.length_map]
    cases failure with
    | none => simp
    | some e' =>
        rcases Nat.eq_zero_or_pos (i - replies.length) with hzero | hpos
        · have hlast : i = replies.length := by omega
          simp [hlast]
        · have hbehind : ([Except.error e'] : List (Except Failure String))[i - replies.length]? = none :=
            List.getElem?_eq_none hpos
          have hne : i ≠ replies.length := by omega
          simp [hbehind, hne]

end

/-- For every interval that takes some time, every sequence of peers and every cancellation: the
requests are made one at a time and by turns, each answered one is printed before the next is made,
the first failure ends the run, a cancellation ends it behind a pair, and after the cancellation two
requests begin at most. -/
theorem orderly_run (r : Requester) {interval : Duration} (hinterval : 0 < interval.nanos)
    (c : Cancellation) (peers : List Peer) :
    Orderly r interval c peers (r.run interval c peers) := by
  have hcourse := course_runFrom r interval.nanos c greetingAt_zero 0 peers
  obtain ⟨replies, failure, hstands⟩ := hcourse.stands
  have hends := hstands.ends
  have hlength := hstands.length_begun
  show Orderly r interval c peers (r.runFrom interval.nanos c .hello 0 peers)
  generalize r.runFrom interval.nanos c .hello 0 peers = run at *
  have hresult (e : Failure) : run.result = some (.error e) ↔ failure = some e := by
    generalize run.result = result at hends
    cases hends with
    | failed e' => simp
    | stopped => simp
    | waiting => simp
  refine
    { turns := ?turns, oneAtATime := ?oneAtATime, inOrder := hcourse.inOrder.2, replies := ?replies,
      fails := ?fails, endsThere := ?endsThere, cancelled := hcourse.cancelled, inPairs := ?inPairs,
      stops := fun t ht => (hcourse.atMostTwo hinterval ht).1, goesOn := ?goesOn }
  case turns =>
    refine ⟨by rw [hstands.greetings, hlength], ?_⟩
    have hmade := congrArg List.length hstands.outcomes
    simp only [List.length_take, length_outcomesFrom, List.length_append, List.length_map] at hmade
    omega
  case oneAtATime =>
    intro before s later hsteps hopens
    have hvalues := hstands.values
    rw [hsteps, List.map_append, List.map_cons] at hvalues
    have hcounts := replies_eq_of_opens (by cases failure <;> simp) hvalues.symm hopens
    rwa [List.filterMap_map, List.filterMap_map] at hcounts
  case replies =>
    rw [hstands.printed, hstands.outcomes_eq, List.filterMap_append, List.filterMap_map,
      List.filterMap_map]
    cases failure with
    | none => simp [Function.comp_def, Except.toOption]
    | some e => simp [Function.comp_def, Except.toOption]
  case fails =>
    intro e
    rw [hresult]
    constructor
    · intro hfailure
      refine ⟨replies.length, hstands.failure_iff.mpr ⟨rfl, hfailure⟩, ?_⟩
      intro i hi
      refine ⟨replies[i], ?_⟩
      rw [hstands.outcomes_eq, List.getElem?_append_left (by rw [List.length_map]; exact hi),
        List.getElem?_map, List.getElem?_eq_getElem hi]
      rfl
    · rintro ⟨i, hfailed, -⟩
      exact (hstands.failure_iff.mp hfailed).2
  case endsThere =>
    intro i e hfailed
    obtain ⟨rfl, hfailure⟩ := hstands.failure_iff.mp hfailed
    rw [hlength, hfailure]
    rfl
  case inPairs =>
    intro hok
    rw [hstands.printed]
    rw [hok] at hends
    cases hends with
    | stopped hne hturn =>
        rw [Nat.zero_add] at hturn
        exact ⟨List.length_pos_iff.mpr hne, even_of_greetingAt hturn, hlength⟩
  case goesOn =>
    intro hnone
    rw [hnone] at hends
    cases hends with
    | waiting hall => rw [hlength, hall]; rfl

/-- A peer that answers every line at once. -/
def answering (text : String) : Peer :=
  { opening := some ⟨0, .ready⟩, reply := fun _ => [⟨0, .octets (Text.Utf8.encode text.toList)⟩] }

/-- A cancellation at the very end of a pause that is noticed too late: one more pair begins at that
instant, and none after it, although a fifth peer waits. -/
theorem orderly_run_tie :
    let r : Requester := ⟨⟨"localhost", 443⟩, .dns "localhost", "Ada", .ofSecs 5⟩
    let c : Cancellation := ⟨some 1000000000, false⟩
    let peers := ["a\n", "b\n", "c\n", "d\n", "e\n"].map answering
    let run := r.run (.ofSecs 1) c peers
    0 < (Duration.ofSecs 1).nanos ∧ Orderly r (.ofSecs 1) c peers run ∧
      run.begun = [(0, .hello), (0, .helloAgain), (1000000000, .hello), (1000000000, .helloAgain)] ∧
      run.printed = ["a", "b", "c", "d"] ∧ run.result = some (.ok ()) :=
  ⟨by decide, orderly_run _ (by decide) _ _, by decide, by decide, by decide⟩

end CertRotation.Requester
