/-
# `Proofs.Greeter.Serving` — connections do not know of each other

A greeter has any number of connections, in any phase, and the stores of both sides are renewed
while it serves.  What one connection comes to is read off from its own acts:

    before its handshake a connection receives nothing          (`Untouched.run`)
    a handshake depends on what two stores hold, and no more     (`Ends.eq_meet`)
    after it, a connection follows the acts of its client alone  (`run_shaken`)

So a run with one connection gives what the whole run gives to that connection, unless its own client
has kept a session of an earlier handshake and takes it up (`run_tickets`).  The greeter lets it:
then the connection is served by the identities of that handshake, whatever has become of them.  What
other clients keep is never asked for.
-/
import CertRotation.Greeter.Serving
import CertRotation.Proofs.Conversation

namespace CertRotation

/-! ## What a handshake depends on -/

namespace Tls

/-- Two sides shake hands as any others do that hold the same identities. -/
theorem handshake_congr {client server : Endpoint} {cs ss : CredentialStore}
    (hclient : cs.current = client.store.current) (hserver : ss.current = server.store.current)
    (name : Net.ServerName) (now : Int) :
    handshake { client with store := cs } { server with store := ss } name now =
      handshake client server name now := by
  have hasked : ss.forClient = server.store.forClient := by
    unfold CredentialStore.forClient
    rw [hserver]
  have hanswered : Endpoint.clientIdentity { client with store := cs } = client.clientIdentity := by
    unfold Endpoint.clientIdentity CredentialStore.forServer
    rw [hclient]
  unfold handshake finish
  rw [hasked, hanswered]

end Tls

namespace Greeter.Serving

open Net Text

/-! ## One connection -/

/-- An answer that is still to come is empty so far. -/
theorem eq_pending_of_ending {serverName : Option String} {received : Stream}
    (h : (answer serverName received).ending = .pending) :
    answer serverName received = ⟨[], .pending⟩ := by
  unfold answer at h ⊢
  split at h
  · rfl
  · exact Ending.noConfusion h
  · split at h
    · exact Ending.noConfusion h
    · exact Ending.noConfusion h

namespace Phase

/-- The handshake of a connection is over, or will never come. -/
def IsShaken (p : Phase) : Prop :=
  p ≠ .accepted

theorem isShaken_shake (o : Tls.Outcome) : IsShaken (shake o) := by
  unfold shake IsShaken
  split <;> exact Phase.noConfusion

theorem isShaken_read (o : Tls.Outcome) (session : Tls.Session) (received : Stream) :
    IsShaken (read o session received) := by
  unfold read IsShaken
  dsimp only
  split <;> exact Phase.noConfusion

theorem IsShaken.act {p : Phase} (h : IsShaken p) (a : Act) : IsShaken (p.act a) := by
  cases p with
  | accepted => exact absurd rfl h
  | dropped => exact h
  | refused o => exact h
  | reading o session received =>
      cases a with
      | sends octets => exact isShaken_read o session _
      | closes => exact isShaken_read o session _
      | breaks c => exact isShaken_read o session _
  | answered o a => exact h

theorem act_accepted (a : Act) : act .accepted a = .accepted ∨ act .accepted a = .dropped := by
  cases a with
  | sends octets => exact Or.inl rfl
  | closes => exact Or.inr rfl
  | breaks c => exact Or.inr rfl

theorem IsShaken.after {p : Phase} (h : IsShaken p) (as : List Act) : IsShaken (p.after as) := by
  induction as generalizing p with
  | nil => exact h
  | cons a as ih => exact ih (h.act a)

theorem opening?_shake (o : Tls.Outcome) : (shake o).opening? = some (Conversation.opening o) := by
  unfold shake
  split <;> rfl

/-- Once it has shaken hands and has sent a line, a client receives what the greeter sends in reply. -/
theorem arrivals_shake (o : Tls.Outcome) (line : Bytes) :
    ((shake o).act (.sends line)).arrivals = Conversation.reply o Conversation.greeter line := by
  unfold shake
  cases hserver : o.server with
  | error f =>
      show Conversation.reply o Conversation.greeter [] = _
      unfold Conversation.reply
      simp only [hserver]
      cases o.client with
      | error e => rfl
      | ok t => rfl
  | ok session =>
      show (read o session ⟨[] ++ line, .pending⟩).arrivals = _
      have hreply : Conversation.reply o Conversation.greeter line =
          (answer session.serverName ⟨line, .pending⟩).arrivals := by
        unfold Conversation.reply
        rw [hserver]
        rfl
      rw [hreply, List.nil_append]
      unfold read
      dsimp only
      split
      · rename_i hpending
        rw [eq_pending_of_ending hpending]
        rfl
      · rfl

theorem after_dropped (as : List Act) : after .dropped as = .dropped := by
  induction as with
  | nil => rfl
  | cons a as ih => exact ih

end Phase

/-! ## All connections -/

namespace State

variable (honours : Tls.Ticket → Int → Bool) {s : State} {c : Nat}

/-! ### One step -/

/-- How a handshake of a client ends: as one of the two sides as they stand, or as the session that
the client has kept for the name and takes up. -/
inductive Ends (s : State) (client : Tls.Configuration) (name : ServerName) (now : Int) :
    Tls.Outcome → Prop
  | anew : Ends s client name now ((s.pairing client).encounter.meet name now)
  | takenUp (t : Tls.Ticket) : client.resumes = true → t ∈ s.tickets client.store → t.name = name →
      honours t now = true → Ends s client name now t.outcome

/-- A ticket is what a client keeps of a handshake with the greeter as both stand. -/
structure Yields (s : State) (client : Tls.Configuration) (now : Int) (t : Tls.Ticket) : Prop where
  resumes : client.resumes = true
  ofClient : ((s.pairing client).encounter.meet t.name now).client = .ok t.client
  ofServer : ((s.pairing client).encounter.meet t.name now).server = .ok t.server

/-- Everything that an occurrence can make of a greeter. -/
inductive Transition (s : State) : Occurrence → State → Prop
  | accepts : s.result = none →
      Transition s .connects { s with connections := s.connections ++ [.accepted] }
  | turnsAway : s.result ≠ none → Transition s .connects s
  | shakes {c : Nat} {client : Tls.Configuration} {name : ServerName} {now : Int}
      (tickets : List Tls.Ticket) (outcome : Tls.Outcome) : s.connections[c]? = some .accepted →
      Ends honours s client name now outcome →
      (∀ t ∈ tickets, t ∈ s.tickets client.store ∨ t.name = name ∧ s.Yields client now t) →
      Transition s (.shakesHands c client name now)
        { s.keep client.store tickets with connections := s.connections.set c (.shake outcome) }
  | ignores {c : Nat} {client : Tls.Configuration} {name : ServerName} {now : Int} :
      s.connections[c]? ≠ some .accepted → Transition s (.shakesHands c client name now) s
  | acts (c : Nat) (a : Act) :
      Transition s (.acts c a) { s with connections := s.connections.modify c (·.act a) }
  | rotates (n : Nat) (i : Identity) : Transition s (.rotates n i) (s.rotate n i)
  | shutsDown : Transition s .shutsDown { s with result := s.result.or (some (.ok ())) }
  | listenerFails (e : IoError) :
      Transition s (.listenerFails e) { s with result := s.result.or (some (.error e)) }

/-- A client that keeps no sessions, or has kept none, meets the greeter as it stands. -/
theorem Ends.eq_meet {client : Tls.Configuration} {name : ServerName} {now : Int} {o : Tls.Outcome}
    (h : Ends honours s client name now o)
    (hnone : client.resumes = false ∨ s.tickets client.store = []) :
    o = (s.pairing client).encounter.meet name now := by
  cases h with
  | anew => rfl
  | takenUp t hresumes hkept =>
      rcases hnone with hnone | hnone
      · rw [hresumes] at hnone
        nomatch hnone
      · rw [hnone] at hkept
        nomatch hkept

theorem step_transition (s : State) (o : Occurrence) :
    Transition honours s o (s.step honours o) := by
  cases o with
  | connects =>
      show Transition honours s .connects s.accept
      unfold accept
      split
      · rename_i hnone
        exact .accepts (Option.isNone_iff_eq_none.mp hnone)
      · rename_i hsome
        exact .turnsAway fun hnone => hsome (Option.isNone_iff_eq_none.mpr hnone)
  | shakesHands c client name now =>
      show Transition honours s _ (s.shakeHands honours c client name now)
      unfold shakeHands
      split
      · rename_i haccepted
        rcases Tls.Pairing.meet_cases honours (s.pairing client) name now with
          hmet | ⟨t, hkept, hresumes, hname, hhonours, hmet⟩
        · rw [hmet]
          refine .shakes _ _ haccepted .anew fun t ht => ?_
          rcases Tls.Pairing.mem_ticketsAfter ht with hkept | ⟨hresumes, rfl, hclient, hserver⟩
          · exact Or.inl hkept
          · exact Or.inr ⟨rfl, hresumes, hclient, hserver⟩
        · rw [hmet]
          exact .shakes _ _ haccepted (.takenUp t hresumes hkept hname hhonours) fun _ ht => Or.inl ht
      · rename_i hother
        exact .ignores hother
  | acts c a => exact .acts c a
  | rotates n i => exact .rotates n i
  | shutsDown => exact .shutsDown
  | listenerFails e => exact .listenerFails e

/-- What a step leaves alone, and how it ends the serving. -/
theorem step_frame (s : State) (o : Occurrence) :
    (s.step honours o).greeter = s.greeter ∧ (s.step honours o).result = s.result.or o.ending? := by
  have hstep := step_transition honours s o
  generalize s.step honours o = s' at hstep ⊢
  cases hstep with
  | shutsDown => exact ⟨rfl, rfl⟩
  | listenerFails e => exact ⟨rfl, rfl⟩
  | _ => exact ⟨rfl, Option.or_none.symm⟩

/-- A step renews a store only by a rotation. -/
theorem step_current (s : State) (n : Nat) (o : Occurrence) :
    ((s.step honours o).stores n).current = (o.rotation? n).or (s.stores n).current := by
  have hstep := step_transition honours s o
  generalize s.step honours o = s' at hstep ⊢
  cases hstep with
  | rotates m i =>
      show ((if n = m then ((s.stores n).install i).1 else s.stores n)).current =
        (if m = n then some i else none).or (s.stores n).current
      by_cases hn : n = m
      · rw [if_pos hn, if_pos hn.symm, CredentialStore.install_current]
        rfl
      · rw [if_neg hn, if_neg (Ne.symm hn)]
        rfl
  | _ => rfl

/-! ### Runs -/

theorem run_cons (s : State) (o : Occurrence) (os : List Occurrence) :
    s.run honours (o :: os) = (s.step honours o).run honours os := rfl

theorem run_append (s : State) (os later : List Occurrence) :
    s.run honours (os ++ later) = (s.run honours os).run honours later :=
  List.foldl_append

theorem run_greeter (s : State) (os : List Occurrence) : (s.run honours os).greeter = s.greeter := by
  induction os generalizing s with
  | nil => rfl
  | cons o os ih => rw [run_cons, ih, (step_frame honours s o).1]

/-- Serving ends with the first shutdown or failure of the listener, and with nothing else. -/
theorem run_result (s : State) (os : List Occurrence) :
    (s.run honours os).result = s.result.or (os.findSome? (·.ending?)) := by
  induction os generalizing s with
  | nil => exact Option.or_none.symm
  | cons o os ih =>
      rw [run_cons, ih, (step_frame honours s o).2, Option.or_assoc, List.findSome?_cons]
      cases o.ending? with
      | none => rfl
      | some r => rfl

/-- A store holds what was rotated into it last, and if nothing was, what it held before. -/
theorem run_current (s : State) (n : Nat) (os : List Occurrence) :
    ((s.run honours os).stores n).current = (rotations n os).getLast?.or (s.stores n).current := by
  induction os generalizing s with
  | nil => rfl
  | cons o os ih =>
      rw [run_cons, ih, step_current]
      unfold rotations
      rw [List.filterMap_cons]
      cases o.rotation? n with
      | none => rfl
      | some i =>
          rw [List.getLast?_cons]
          cases (os.filterMap (·.rotation? n)).getLast? with
          | none => rfl
          | some j => rfl

/-! ### The connections that are accepted -/

theorem step_length (s : State) (o : Occurrence) :
    (s.step honours o).connections.length =
      s.connections.length + if s.result.isNone && o.isConnect then 1 else 0 := by
  have hstep := step_transition honours s o
  generalize s.step honours o = s' at hstep ⊢
  cases hstep with
  | accepts hresult =>
      rw [hresult]
      exact List.length_append
  | turnsAway hended =>
      obtain ⟨r, hr⟩ := Option.ne_none_iff_exists'.mp hended
      rw [hr]
      rfl
  | shakes => simp [Occurrence.isConnect]
  | acts c a => simp [Occurrence.isConnect]
  | rotates n i => simp [Occurrence.isConnect, rotate]
  | ignores => simp [Occurrence.isConnect]
  | shutsDown => simp [Occurrence.isConnect]
  | listenerFails e => simp [Occurrence.isConnect]

theorem run_length_of_ended (s : State) (os : List Occurrence) (h : s.result ≠ none) :
    (s.run honours os).connections.length = s.connections.length := by
  induction os generalizing s with
  | nil => rfl
  | cons o os ih =>
      obtain ⟨r, hr⟩ := Option.ne_none_iff_exists'.mp h
      have hstill : (s.step honours o).result ≠ none := by
        rw [(step_frame honours s o).2, hr]
        exact Option.some_ne_none r
      rw [run_cons, ih _ hstill, step_length, hr]
      rfl

/-- As long as it serves, a greeter accepts whoever connects. -/
theorem run_length (s : State) (os : List Occurrence) (h : s.result = none) :
    (s.run honours os).connections.length =
      s.connections.length + (os.takeWhile (·.ending?.isNone)).countP (·.isConnect) := by
  induction os generalizing s with
  | nil => rfl
  | cons o os ih =>
      have hstep := step_length honours s o
      have hresult := (step_frame honours s o).2
      rw [h] at hstep hresult
      cases hending : o.ending? with
      | none =>
          rw [hending] at hresult
          rw [run_cons, ih _ hresult, hstep, List.takeWhile_cons, hending]
          rw [if_pos Option.isNone_none, List.countP_cons, Nat.add_assoc, Nat.add_comm (ite _ _ _)]
          rfl
      | some r =>
          rw [hending] at hresult
          have hended : (s.step honours o).result ≠ none := by
            rw [hresult]
            exact Option.some_ne_none r
          have hconnect : o.isConnect = false := by
            cases o with
            | connects => nomatch hending
            | shakesHands c client name now => rfl
            | acts c a => rfl
            | rotates n i => rfl
            | shutsDown => rfl
            | listenerFails e => rfl
          rw [run_cons, run_length_of_ended honours _ os hended, hstep, hconnect, List.takeWhile_cons,
            hending]
          rfl

/-! ### One connection among others -/

section
variable {p : Phase}

/-- After its handshake a connection follows the acts of its own client. -/
theorem step_shaken (hp : s.connections[c]? = some p) (hshaken : p.IsShaken) (o : Occurrence) :
    (s.step honours o).connections[c]? = some (p.after (acts c [o])) := by
  have hlt : c < s.connections.length := (List.getElem?_eq_some_iff.mp hp).1
  have hstep := step_transition honours s o
  generalize s.step honours o = s' at hstep ⊢
  cases hstep with
  | accepts => exact (List.getElem?_append_left hlt).trans hp
  | @shakes d _ _ _ _ _ haccepted =>
      have hne : d ≠ c := by
        rintro rfl
        exact hshaken (Option.some.inj (hp.symm.trans haccepted))
      exact (List.getElem?_set_ne hne).trans hp
  | acts d a =>
      rw [List.getElem?_modify, hp]
      by_cases hd : d = c
      · simp [acts, Occurrence.actOn?, hd, Phase.after]
      · simp [acts, Occurrence.actOn?, hd, Phase.after]
  | _ => exact hp

theorem run_shaken (hp : s.connections[c]? = some p) (hshaken : p.IsShaken) (os : List Occurrence) :
    (s.run honours os).connections[c]? = some (p.after (acts c os)) := by
  induction os generalizing s p with
  | nil => exact hp
  | cons o os ih =>
      have hstep := step_shaken honours hp hshaken o
      have hsplit : acts c (o :: os) = acts c [o] ++ acts c os := by
        unfold acts
        rw [← List.filterMap_append, List.singleton_append]
      rw [run_cons, ih hstep (hshaken.after _), hsplit]
      exact congrArg some List.foldl_append.symm

end

/-- A connection that is not there yet, or has not shaken hands. -/
def Untouched (s : State) (c : Nat) : Prop :=
  s.connections[c]? = none ∨ s.connections[c]? = some .accepted

theorem Untouched.accept (h : s.Untouched c) :
    Untouched { s with connections := s.connections ++ [.accepted] } c := by
  show (s.connections ++ [Phase.accepted])[c]? = none ∨ _
  rcases Nat.lt_trichotomy c s.connections.length with hc | hc | hc
  · rw [List.getElem?_append_left hc]
    exact h
  · rw [hc, List.getElem?_concat_length]
    exact Or.inr rfl
  · rw [List.getElem?_eq_none (by rw [List.length_append, List.length_singleton]; exact hc)]
    exact Or.inl rfl

/-- Before its handshake, an act of its client leaves a connection as it is or ends it. -/
theorem Untouched.act (h : s.Untouched c) (d : Nat) (a : Act) :
    let s' := { s with connections := s.connections.modify d (·.act a) }
    s'.Untouched c ∨ s'.connections[c]? = some .dropped := by
  intro s'
  have hmodified : s'.connections[c]? = (fun p => if d = c then p.act a else p) <$> s.connections[c]? :=
    List.getElem?_modify _ _ _ _
  rcases h with h | h
  · refine Or.inl (Or.inl ?_)
    rw [hmodified, h]
    rfl
  · rw [h] at hmodified
    by_cases hd : d = c
    · rcases Phase.act_accepted a with ha | ha
      · exact Or.inl (Or.inr (by rw [hmodified]; simp [hd, ha]))
      · exact Or.inr (by rw [hmodified]; simp [hd, ha])
    · exact Or.inl (Or.inr (by rw [hmodified]; simp [hd]))

/-- What can happen to such a connection: it goes on like that, it ends, or it shakes hands. -/
theorem Untouched.step (h : s.Untouched c) (o : Occurrence) :
    (s.step honours o).Untouched c ∨ (s.step honours o).connections[c]? = some .dropped ∨
    ∃ client name now outcome, o = .shakesHands c client name now ∧
      (s.step honours o).connections[c]? = some (.shake outcome) ∧
      Ends honours s client name now outcome := by
  have hstep := step_transition honours s o
  generalize s.step honours o = s' at hstep ⊢
  cases hstep with
  | accepts => exact Or.inl h.accept
  | @shakes d client name now _ outcome haccepted hends =>
      by_cases hd : d = c
      · subst hd
        have hlt := (List.getElem?_eq_some_iff.mp haccepted).1
        exact Or.inr (Or.inr ⟨client, name, now, outcome, rfl, List.getElem?_set_self hlt, hends⟩)
      · refine Or.inl ?_
        unfold Untouched
        rw [List.getElem?_set_ne hd]
        exact h
  | acts d a => exact (h.act d a).imp_right Or.inl
  | _ => exact Or.inl h

/-- What a run makes of a connection: nothing, as long as it does not shake hands, and then what the
acts of its client make of that handshake. -/
theorem Untouched.run (h : s.Untouched c) (os : List Occurrence) {p : Phase}
    (hp : (s.run honours os).connections[c]? = some p) :
    (p = .accepted ∨ p = .dropped) ∨
    ∃ before client name now later outcome, os = before ++ .shakesHands c client name now :: later ∧
      Ends honours (s.run honours before) client name now outcome ∧
      p = (Phase.shake outcome).after (acts c later) := by
  induction os generalizing s with
  | nil =>
      have hphase : s.connections[c]? = some p := hp
      rcases h with h | h
      · rw [h] at hphase
        nomatch hphase
      · exact Or.inl (Or.inl (Option.some.inj (hphase.symm.trans h)))
  | cons o os ih =>
      rw [run_cons] at hp
      rcases h.step honours o with
        hstill | hdropped | ⟨client, name, now, outcome, rfl, hshaken, hends⟩
      · rcases ih hstill hp with hsilent | ⟨before, client, name, now, later, outcome, rfl, hmet⟩
        · exact Or.inl hsilent
        · exact Or.inr ⟨o :: before, client, name, now, later, outcome, rfl, hmet⟩
      · have hend := run_shaken honours hdropped Phase.noConfusion os
        rw [Phase.after_dropped] at hend
        exact Or.inl (Or.inr (Option.some.inj (hp.symm.trans hend)))
      · have hend := run_shaken honours hshaken (Phase.isShaken_shake outcome) os
        exact Or.inr ⟨[], client, name, now, os, outcome, rfl, hends,
          Option.some.inj (hp.symm.trans hend)⟩

/-! ### What clients keep -/

/-- A ticket that a client keeps of a run: it shook hands in it for the name, and these are the
sessions of both sides as they stood then. -/
def Kept (s : State) (os : List Occurrence) (client : Nat) (t : Tls.Ticket) : Prop :=
  ∃ before c config now later, os = before ++ .shakesHands c config t.name now :: later ∧
    (s.run honours before).connections[c]? = some .accepted ∧ config.store = client ∧
    (s.run honours before).Yields config now t

/-- A step leaves a client with the tickets that it had, and with one of the handshake that it was. -/
theorem step_tickets {o : Occurrence} {n : Nat} {t : Tls.Ticket}
    (h : t ∈ (s.step honours o).tickets n) :
    t ∈ s.tickets n ∨ ∃ c client now, o = .shakesHands c client t.name now ∧
      s.connections[c]? = some .accepted ∧ client.store = n ∧ s.Yields client now t := by
  have hstep := step_transition honours s o
  generalize s.step honours o = s' at hstep h
  cases hstep with
  | @shakes c client name now tickets _ haccepted _ htickets =>
      by_cases hn : n = client.store
      · subst hn
        have hmem : t ∈ tickets := by
          simpa only [keep, if_true] using h
        rcases htickets t hmem with hkept | ⟨rfl, hyields⟩
        · exact Or.inl hkept
        · exact Or.inr ⟨c, client, now, rfl, haccepted, rfl, hyields⟩
      · refine Or.inl ?_
        simpa only [keep, if_neg hn] using h
  | _ => exact Or.inl h

theorem run_tickets {os : List Occurrence} {n : Nat} {t : Tls.Ticket}
    (h : t ∈ (s.run honours os).tickets n) : t ∈ s.tickets n ∨ Kept honours s os n t := by
  induction os generalizing s with
  | nil => exact Or.inl h
  | cons o os ih =>
      rw [run_cons] at h
      rcases ih h with hkept | ⟨before, c, client, now, later, rfl, hmet⟩
      · rcases step_tickets honours hkept with hkept | ⟨c, client, now, rfl, hmet⟩
        · exact Or.inl hkept
        · exact Or.inr ⟨[], c, client, now, os, rfl, hmet⟩
      · exact Or.inr ⟨o :: before, c, client, now, later, rfl, hmet⟩

/-! ### A connection alone -/

theorem run_acts {p : Phase} (h : s.connections = [p]) (as : List Act) :
    (s.run honours (as.map (.acts 0))).connections = [p.after as] := by
  induction as generalizing s p with
  | nil => exact h
  | cons a as ih =>
      have hstep : (s.step honours (.acts 0 a)).connections = [p.act a] := by
        show s.connections.modify 0 (·.act a) = _
        rw [h]
        rfl
      exact ih hstep

/-- The state after a client has connected and shaken hands. -/
theorem run_meets (s : State) {client : Tls.Configuration} (hresult : s.result = none)
    (hnone : client.resumes = false ∨ s.tickets client.store = []) (name : ServerName) (now : Int) :
    (s.run honours [.connects, .shakesHands s.connections.length client name now]).connections =
      s.connections ++ [.shake ((s.pairing client).encounter.meet name now)] := by
  rw [run_cons, run_cons]
  have haccept := step_transition honours s .connects
  generalize s.step honours .connects = s' at haccept ⊢
  cases haccept with
  | turnsAway hended => exact absurd hresult hended
  | accepts =>
      have hshake := step_transition honours { s with connections := s.connections ++ [.accepted] }
        (.shakesHands s.connections.length client name now)
      generalize State.step honours _ (.shakesHands s.connections.length client name now) = s'
        at hshake ⊢
      cases hshake with
      | ignores hother => exact absurd List.getElem?_concat_length hother
      | shakes _ outcome _ hends =>
          rw [hends.eq_meet honours hnone]
          show (s.connections ++ [Phase.accepted]).set s.connections.length _ = _
          rw [List.set_append_right _ _ (Nat.le_refl _), Nat.sub_self]
          rfl

/-- What a connection comes to that is the only one. -/
theorem run_alone (stores : Nat → CredentialStore) (g : Nat) (roots : TrustPool)
    (client : Tls.Configuration) (name : ServerName) (now : Int) (as : List Act) :
    ((State.new stores g roots).run honours (alone client name now as)).connections =
      [(Phase.shake (((State.new stores g roots).pairing client).encounter.meet name now)).after as] := by
  unfold alone
  rw [run_append]
  exact run_acts honours (run_meets honours (State.new stores g roots) rfl (Or.inr rfl) name now) as

/-! ### A requester that connects -/

/-- A requester meets a serving greeter as it meets one that no one else has met. -/
theorem peer_eq {client : Tls.Configuration} (hresult : s.result = none)
    (hresumes : client.resumes = false) (name : ServerName) (now : Int) :
    s.peer honours client name now =
      Conversation.greeterPeer .loopback ((s.pairing client).encounter.meet name now) := by
  have hmet := run_meets honours s hresult (Or.inl hresumes) name now
  unfold peer
  simp only [hmet, List.getElem?_concat_length, Phase.opening?_shake, Option.map_some]
  unfold Conversation.greeterPeer Conversation.peer
  simp only [Network.connect]
  congr 1
  funext line
  exact Phase.arrivals_shake _ line

/-! ### What a greeter promises -/

section
variable (stores : Nat → CredentialStore) (g : Nat) (roots : TrustPool)

/-- A connection stands where it would stand as the only one of a new greeter, over any stores that
hold the two identities which were current when it shook hands. -/
def Isolated (before : List Occurrence) (client : Tls.Configuration) (name : ServerName) (now : Int)
    (as : List Act) (p : Phase) : Prop :=
  let then_ := ((new stores g roots).run honours before).stores
  ∀ fresh : Nat → CredentialStore,
    (fresh client.store).current = (then_ client.store).current →
    (fresh g).current = (then_ g).current →
    ((new fresh g roots).run honours (alone client name now as)).connections = [p]

/-- A connection goes on with a session for its name that its client has kept of an earlier handshake,
and so with the identities of that one. -/
def TakesUp (before : List Occurrence) (client : Tls.Configuration) (name : ServerName) (now : Int)
    (as : List Act) (p : Phase) : Prop :=
  ∃ t, Kept honours (new stores g roots) before client.store t ∧ t.name = name ∧
    honours t now = true ∧ p = (Phase.shake t.outcome).after as

/-- A requester that connects next gets what the two current identities make of its request; and it
gets its greeting, for any name that a greeter reads whole, if each side trusts what the other holds. -/
def GreetsNext (s : State) : Prop :=
  ∀ (store : Nat) (trusted : TrustPool) (target : Target) (given : Option String) (name : String)
    (timeout : Duration) (r : Requester) (now : Int),
    Requester.new? target given name timeout = .ok r →
    let met := s.peer honours (Tls.clientConfiguration store trusted) r.serverName now
    let clientId := (s.stores store).current
    let serverId := (s.stores g).current
    met = Conversation.greeterPeer .loopback
      (Tls.between trusted roots clientId serverId r.serverName now) ∧
    ((∃ i, serverId = some i ∧ Tls.verifyServer trusted i r.serverName now = .ok ()) →
      (∃ i, clientId = some i ∧ Tls.verifyClient roots i now = .ok ()) →
      (Utf8.encode name.toList).length ≤ 250 →
      ∀ greeting : Greeting, r.request greeting met =
        .ok (greeting.reply (String.ofList (trim (heard name.toList)))
          ((Tls.sentName r.serverName).getD unnamed)))

end

section
variable {stores : Nat → CredentialStore} {g : Nat} {roots : TrustPool} {before : List Occurrence}
  {client : Tls.Configuration} {name : ServerName} {now : Int}

/-- A handshake of the two sides as they stand is the one of any stores that hold the same. -/
theorem isolated_of_meet (as : List Act) :
    let s := (new stores g roots).run honours before
    Isolated honours stores g roots before client name now as
      ((Phase.shake ((s.pairing client).encounter.meet name now)).after as) := by
  intro s fresh hclient hserver
  have hgreeter : s.greeter = Tls.serverConfiguration g roots := run_greeter honours _ _
  have hsame : ((new fresh g roots).pairing client).encounter.meet name now =
      (s.pairing client).encounter.meet name now := by
    unfold pairing Tls.Pairing.encounter Tls.Encounter.meet
    rw [hgreeter]
    exact @Tls.handshake_congr (client.endpoint s.stores)
      ((Tls.serverConfiguration g roots).endpoint s.stores) _ _ hclient hserver name now
  rw [run_alone honours fresh g roots, hsame]

end

/-- What becomes of a connection: it has received nothing, it is served by itself, or its client has
taken up a session. -/
theorem phase_of_run {stores : Nat → CredentialStore} {g : Nat} {roots : TrustPool}
    {os : List Occurrence} {p : Phase}
    (hp : ((new stores g roots).run honours os).connections[c]? = some p) :
    (p.opening? = none ∧ p.arrivals = []) ∨
    ∃ before client name now later, os = before ++ .shakesHands c client name now :: later ∧
      (Isolated honours stores g roots before client name now (acts c later) p ∨
        (client.resumes = true ∧
          TakesUp honours stores g roots before client name now (acts c later) p)) := by
  have hnew : (new stores g roots).Untouched c := Or.inl rfl
  rcases hnew.run honours os hp with
    hsilent | ⟨before, client, name, now, later, outcome, rfl, hends, rfl⟩
  · refine Or.inl ?_
    rcases hsilent with rfl | rfl
    · exact ⟨rfl, rfl⟩
    · exact ⟨rfl, rfl⟩
  · refine Or.inr ⟨before, client, name, now, later, rfl, ?_⟩
    cases hends with
    | anew => exact Or.inl (isolated_of_meet honours (acts c later))
    | takenUp t hresumes hmem hname hhonours =>
        rcases run_tickets honours hmem with hkept | hkept
        · nomatch hkept
        · exact Or.inr ⟨hresumes, t, hkept, hname, hhonours, rfl⟩

theorem greetsNext_of_serving {g : Nat} {roots : TrustPool} (hresult : s.result = none)
    (hgreeter : s.greeter = Tls.serverConfiguration g roots) : GreetsNext honours g roots s := by
  intro store trusted target given name timeout r now hnew met clientId serverId
  have hshake : ((s.pairing (Tls.clientConfiguration store trusted)).encounter.meet r.serverName now) =
      Tls.handshake (.hardened (s.stores store) trusted) (.hardened (s.stores g) roots) r.serverName
        now := by
    unfold pairing Tls.Pairing.encounter Tls.Encounter.meet
    rw [hgreeter]
    rfl
  have hmet : met = Conversation.greeterPeer .loopback
      (Tls.handshake (.hardened (s.stores store) trusted) (.hardened (s.stores g) roots) r.serverName
        now) := by
    rw [← hshake]
    exact peer_eq honours hresult rfl r.serverName now
  refine ⟨hmet.trans (by rw [Tls.handshake_hardened]), ?_⟩
  rintro ⟨i, hi, hserver⟩ ⟨j, hj, hclient⟩ hlength greeting
  obtain ⟨session, hsession⟩ : ∃ session, (Tls.handshake (.hardened (s.stores store) trusted)
      (.hardened (s.stores g) roots) r.serverName now).server = .ok session := by
    rw [Tls.handshake_hardened]
    exact Tls.between_server_ok_iff.mpr ⟨j, i, hj, hi, hserver, hclient⟩
  have hreply := Conversation.request_heard hnew hlength hsession greeting
  rw [(Conversation.request_of_session hsession greeting).2] at hreply
  rw [hmet]
  exact hreply

/-- Whatever happens to a greeter: only a shutdown or a failure of its listener ends the serving, and
until then it accepts every connection.  A connection that has shaken hands is served as if there were
no other, unless its client resumes sessions and has taken up one of its own from an earlier handshake
for the same name.  And as long as the greeter serves, the next request is answered as the two current
identities have it. -/
theorem connections_served_apart (stores : Nat → CredentialStore) (g : Nat) (roots : TrustPool)
    (os : List Occurrence) :
    let s := (new stores g roots).run honours os
    s.result = os.findSome? (·.ending?) ∧
    s.connections.length = (os.takeWhile (·.ending?.isNone)).countP (·.isConnect) ∧
    (∀ n, (s.stores n).current = (rotations n os).getLast?.or (stores n).current) ∧
    (∀ c p, s.connections[c]? = some p →
      (p.opening? = none ∧ p.arrivals = []) ∨
      ∃ before client name now later, os = before ++ .shakesHands c client name now :: later ∧
        (Isolated honours stores g roots before client name now (acts c later) p ∨
          (client.resumes = true ∧
            TakesUp honours stores g roots before client name now (acts c later) p))) ∧
    (s.result = none → GreetsNext honours g roots s) := by
  intro s
  refine ⟨run_result honours _ os, ?_, fun n => run_current honours _ n os,
    fun c p hp => phase_of_run honours hp, ?_⟩
  · exact (run_length honours _ os rfl).trans (Nat.zero_add _)
  · intro hresult
    exact greetsNext_of_serving honours hresult (run_greeter honours _ os)

/-- Five connections fail, each in its own way, while identities come on both sides; the sixth is
greeted. -/
theorem connections_served_apart_localhost :
    let client := Tls.clientConfiguration 1 Conversation.localhostRoots
    let shakes (c : Nat) := Occurrence.shakesHands c client (.dns "localhost") 1760000000
    let s := (new (fun _ => .new {}) 0 Conversation.localhostRoots).run (fun _ _ => true)
      [.connects, shakes 0, .rotates 0 Conversation.localhostIdentity,
        .connects, shakes 1, .rotates 1 Conversation.localhostIdentity,
        .connects, .acts 2 (.breaks .connectionRefused),
        .connects, shakes 3, .acts 3 (.sends (Utf8.encode "HOWDY\n".toList)),
        .connects, shakes 4, .acts 4 (.sends [0xFF]), .acts 4 .closes]
    s.connections.length = 5 ∧
    ∃ r, Requester.new? ⟨"localhost", 443⟩ none "Ada" (.ofSecs 10) = .ok r ∧
      r.request .hello (s.peer (fun _ _ => true) client r.serverName 1760000000) =
        .ok "Hello Ada (localhost)" := by
  intro client shakes s
  obtain ⟨hresult, hlength, hcurrent, -, hnext⟩ := connections_served_apart (fun _ _ => true)
    (fun _ => .new {}) 0 Conversation.localhostRoots
      [.connects, shakes 0, .rotates 0 Conversation.localhostIdentity,
        .connects, shakes 1, .rotates 1 Conversation.localhostIdentity,
        .connects, .acts 2 (.breaks .connectionRefused),
        .connects, shakes 3, .acts 3 (.sends (Utf8.encode "HOWDY\n".toList)),
        .connects, shakes 4, .acts 4 (.sends [0xFF]), .acts 4 .closes]
  obtain ⟨r, hnew⟩ : ∃ r, Requester.new? ⟨"localhost", 443⟩ none "Ada" (.ofSecs 10) = .ok r :=
    ⟨_, rfl⟩
  have hname : r.serverName = .dns "localhost" := by
    rw [← Except.ok.inj hnew]
    decide
  refine ⟨hlength.trans rfl, r, hnew, ?_⟩
  have hgreets := (hnext hresult 1 Conversation.localhostRoots _ _ _ _ r 1760000000 hnew).2
  rw [hname] at hgreets ⊢
  exact hgreets ⟨_, (hcurrent 0).trans rfl, Conversation.localhost_trusted.1⟩
    ⟨_, (hcurrent 1).trans rfl, Conversation.localhost_trusted.2⟩ (by decide) .hello

/-- An identity in the name of a root that has not signed it. -/
def unsignedIdentity : Identity :=
  ⟨Identity.leafOver Identity.firstPoint, [], .ec .p256 1,
    Identity.certifies_of_publicKey Identity.firstLeaf_publicKey⟩

/-- A client that keeps its sessions was trusted when it came first.  When it comes again it presents
what no one has signed, and as the only client of a new greeter over the same stores it would be
refused.  But it takes up its session, is asked for nothing, and is greeted. -/
theorem kept_session_outlives_trust :
    let roots := Conversation.localhostRoots
    let client := { Tls.clientConfiguration 1 roots with resumes := true }
    let shakes (c : Nat) := Occurrence.shakesHands c client (.dns "localhost") 1760000000
    let asks := [Act.sends (Utf8.encode "HELLO Ada\n".toList)]
    let s := (new (fun _ => .new {}) 0 roots).run (fun _ _ => true)
      [.rotates 0 Conversation.localhostIdentity, .rotates 1 Conversation.localhostIdentity,
        .connects, shakes 0, .rotates 1 unsignedIdentity, .connects]
    let among := s.run (fun _ _ => true) (shakes 1 :: asks.map (.acts 1))
    let only := (new s.stores 0 roots).run (fun _ _ => true)
      (alone client (.dns "localhost") 1760000000 asks)
    (s.stores 1).current = some unsignedIdentity ∧
    Tls.verifyClient roots unsignedIdentity 1760000000 = .error .badSignature ∧
    among.connections[1]?.map (·.arrivals) =
      some [⟨0, .octets (Utf8.encode "Hello Ada (localhost)\n".toList)⟩, ⟨0, .closed⟩] ∧
    only.connections[0]?.map (·.arrivals) =
      some [⟨0, .broken (.invalidData "received fatal alert: DecryptError")⟩] := by
  refine ⟨(run_current (fun _ _ => true) _ 1 _).trans rfl, ?_, ?_, ?_⟩
  · decide +kernel
  · decide +kernel
  · decide +kernel

end State
end Greeter.Serving
end CertRotation
