/-
# `Proofs.Tls.Rotation` — no handshake sees the past

The outcome of a handshake is `between` of the two identities that are current, whatever was
rotated and whoever met before.  Two things carry this:

    both sides hardened  ⟹  `handshake` is `between` of what the stores hold   (`handshake_hardened`)
    no ticket is kept, and no step changes that                                (`Unacquainted.after`)

The second holds because the client resumes no sessions.  Of a client that does, the opposite is
proved: once it has met a server, it meets it as it did then, whatever is rotated
(`resumed_outcome`).
-/
import CertRotation.Tls.Configuration
import CertRotation.Proofs.CredentialStore.Install

namespace CertRotation.Tls

/-! ## One handshake -/

/-- Two hardened sides agree on TLS 1.3. -/
theorem version?_hardened : Policy.version? .hardened .hardened = some .tls13 := rfl

/-- In TLS 1.3 two hardened sides use the client's first suite, whatever the server's key. -/
theorem suite?_hardened (key : KeyAlgorithm) :
    Policy.suite? .hardened .hardened .tls13 key = some .aes256 := by
  cases key <;> rfl

theorem group?_hardened : Policy.group? .hardened .hardened .tls13 = some .secp384r1 := rfl

/-- The end of a handshake in which the server has an identity to present. -/
theorem finish_hardened (cs ss : CredentialStore) (cr sr : TrustPool) (name : Net.ServerName)
    (now : Int) (s : Identity) :
    finish (.hardened cs cr) (.hardened ss sr) name now .tls13 .aes256 .secp384r1 s =
      between cr sr cs.current (some s) name now := by
  unfold finish between Endpoint.clientIdentity CredentialStore.forServer Endpoint.hardened
  cases cs.current with
  | none => rfl
  | some c => rfl

/-- A handshake of two hardened sides depends on what their stores hold and on nothing else in
them. -/
theorem handshake_hardened (cs ss : CredentialStore) (cr sr : TrustPool) (name : Net.ServerName)
    (now : Int) :
    handshake (.hardened cs cr) (.hardened ss sr) name now =
      between cr sr cs.current ss.current name now := by
  unfold handshake
  rw [show (Endpoint.hardened cs cr).policy = .hardened from rfl,
    show (Endpoint.hardened ss sr).policy = .hardened from rfl,
    show (Endpoint.hardened ss sr).store = ss from rfl, version?_hardened]
  unfold CredentialStore.forClient
  cases ss.current with
  | none => rfl
  | some s =>
      simp only [suite?_hardened, group?_hardened]
      exact finish_hardened cs ss cr sr name now s

section
variable {cr sr : TrustPool} {ci si : Option Identity} {name : Net.ServerName} {now : Int}

/-- What a server that finishes must have found, and what both sides know then. -/
theorem between_server_ok {t : Session} (h : (between cr sr ci si name now).server = .ok t) :
    ∃ c s, ci = some c ∧ si = some s ∧
      verifyServer cr s name now = .ok () ∧ verifyClient sr c now = .ok () ∧
      t = ⟨.tls13, .aes256, .secp384r1, some c.chain, sentName name⟩ ∧
      (between cr sr ci si name now).client =
        .ok ⟨.tls13, .aes256, .secp384r1, some s.chain, none⟩ := by
  unfold between at h ⊢
  cases si with
  | none => nomatch h
  | some s =>
      cases hs : verifyServer cr s name now with
      | error f => simp only [hs] at h; nomatch h
      | ok u =>
          cases ci with
          | none => simp only [hs] at h; nomatch h
          | some c =>
              cases hc : verifyClient sr c now with
              | error f => simp only [hs, hc] at h; nomatch h
              | ok u' =>
                  simp only [hs, hc] at h ⊢
                  exact ⟨c, s, rfl, rfl, hs, hc, (Except.ok.inj h).symm, rfl⟩

/-- The server finishes exactly if both sides hold an identity that the other accepts. -/
theorem between_server_ok_iff :
    (∃ t, (between cr sr ci si name now).server = .ok t) ↔
      ∃ c s, ci = some c ∧ si = some s ∧
        verifyServer cr s name now = .ok () ∧ verifyClient sr c now = .ok () := by
  constructor
  · rintro ⟨t, h⟩
    obtain ⟨c, s, hc, hs, hserver, hclient, -, -⟩ := between_server_ok h
    exact ⟨c, s, hc, hs, hserver, hclient⟩
  · rintro ⟨c, s, rfl, rfl, hserver, hclient⟩
    refine ⟨⟨.tls13, .aes256, .secp384r1, some c.chain, sentName name⟩, ?_⟩
    simp only [between, hserver, hclient]

end

/-! ## Runs of a pairing -/

namespace Pairing

variable (honours : Ticket → Int → Bool)

/-- A pairing of this program in which the client has kept nothing of its handshakes. -/
structure Unacquainted (p : Pairing) (client server : Nat) (cr sr : TrustPool) : Prop where
  client : p.client = clientConfiguration client cr
  server : p.server = serverConfiguration server sr
  tickets : p.tickets = []

section
variable {p : Pairing} {client server : Nat} {cr sr : TrustPool}

/-- A rotation of the client's store is one of the client's side, if the server has its own store. -/
theorem encounter_rotate_client (p : Pairing) (hne : p.server.store ≠ p.client.store) (i : Identity) :
    (p.rotate p.client.store i).encounter = (p.encounter.rotate .client i).1 := by
  simp [encounter, rotate, Configuration.endpoint, Encounter.rotate, Encounter.store, hne]

theorem encounter_rotate_server (p : Pairing) (hne : p.client.store ≠ p.server.store) (i : Identity) :
    (p.rotate p.server.store i).encounter = (p.encounter.rotate .server i).1 := by
  simp [encounter, rotate, Configuration.endpoint, Encounter.rotate, Encounter.store, hne]

/-- A client that resumes no session meets the server as if for the first time. -/
theorem meet_of_not_resuming (h : p.client.resumes = false) (name : Net.ServerName) (now : Int) :
    p.meet honours name now = (p, p.encounter.meet name now) := by
  have hticket : p.ticket? honours name now = none := by
    unfold ticket?
    rw [h]
    rfl
  have hkept (o : Outcome) : p.ticketsAfter name o = p.tickets := by
    unfold ticketsAfter
    rw [h]
    split <;> rfl
  unfold Pairing.meet
  simp only [hticket, hkept]

/-- A handshake is one of the two sides as they stand, unless the client takes up a session that it
has kept for the name. -/
theorem meet_cases (p : Pairing) (name : Net.ServerName) (now : Int) :
    p.meet honours name now = ({ p with tickets := p.ticketsAfter name (p.encounter.meet name now) },
      p.encounter.meet name now) ∨
    ∃ t ∈ p.tickets, p.client.resumes = true ∧ t.name = name ∧ honours t now = true ∧
      p.meet honours name now = (p, t.outcome) := by
  unfold Pairing.meet
  cases hfound : p.ticket? honours name now with
  | none => exact Or.inl rfl
  | some t =>
      refine Or.inr ?_
      unfold ticket? at hfound
      split at hfound
      · rename_i hresume
        obtain ⟨hclient, -⟩ := Bool.and_eq_true_iff.mp hresume
        have hfits := List.find?_some hfound
        simp only [Bool.and_eq_true, decide_eq_true_eq] at hfits
        exact ⟨t, List.mem_of_find?_eq_some hfound, hclient, hfits.1, hfits.2, rfl⟩
      · nomatch hfound

/-- What a client keeps of a handshake is its end, if it keeps sessions at all. -/
theorem mem_ticketsAfter {name : Net.ServerName} {o : Outcome} {t : Ticket}
    (h : t ∈ p.ticketsAfter name o) :
    t ∈ p.tickets ∨ (p.client.resumes = true ∧ t.name = name ∧ o.client = .ok t.client ∧
      o.server = .ok t.server) := by
  unfold ticketsAfter at h
  split at h
  · rename_i c s hc hs
    split at h
    · rename_i hresumes
      rcases List.mem_cons.mp h with rfl | hkept
      · exact Or.inr ⟨hresumes, rfl, hc, hs⟩
      · exact Or.inl hkept
    · exact Or.inl h
  · exact Or.inl h

/-- Every handshake of strangers is one of what their stores hold just then. -/
theorem Unacquainted.meet (h : Unacquainted p client server cr sr) (name : Net.ServerName)
    (now : Int) :
    p.meet honours name now =
      (p, between cr sr (p.stores client).current (p.stores server).current name now) := by
  have hresumes : p.client.resumes = false := by
    rw [h.client]
    rfl
  have houtcome : p.encounter.meet name now =
      between cr sr (p.stores client).current (p.stores server).current name now := by
    unfold encounter
    rw [h.client, h.server]
    exact handshake_hardened _ _ cr sr name now
  rw [meet_of_not_resuming honours hresumes, houtcome]

theorem Unacquainted.step (h : Unacquainted p client server cr sr) (s : Step) :
    Unacquainted (p.step honours s) client server cr sr := by
  cases s with
  | rotates store i => exact ⟨h.client, h.server, h.tickets⟩
  | shakesHands name now =>
      show Unacquainted (p.meet honours name now).1 client server cr sr
      rw [h.meet honours name now]
      exact h

/-- However often two sides meet, they stay strangers. -/
theorem Unacquainted.after (h : Unacquainted p client server cr sr) (steps : List Step) :
    Unacquainted (p.after honours steps) client server cr sr := by
  induction steps generalizing p with
  | nil => exact h
  | cons s steps ih => exact ih (h.step honours s)

theorem step_current (p : Pairing) (n : Nat) (s : Step) :
    ((p.step honours s).stores n).current =
      (rotations n [s]).getLast?.or (p.stores n).current := by
  cases s with
  | rotates store i =>
      by_cases hn : n = store
      · subst hn
        simp [step, rotate, rotations]
      · have hn' : store ≠ n := fun h => hn h.symm
        simp [step, rotate, rotations, hn, hn']
  | shakesHands name now =>
      have hstores : (p.meet honours name now).1.stores = p.stores := by
        unfold Pairing.meet
        split <;> rfl
      simp [step, hstores, rotations]

/-- A store holds what was rotated into it last, and if nothing was, what it held before. -/
theorem after_current (p : Pairing) (n : Nat) (steps : List Step) :
    ((p.after honours steps).stores n).current =
      (rotations n steps).getLast?.or (p.stores n).current := by
  induction steps generalizing p with
  | nil => rfl
  | cons s steps ih =>
      have hsplit : rotations n (s :: steps) = rotations n [s] ++ rotations n steps := by
        unfold rotations
        rw [← List.filterMap_append, List.singleton_append]
      show (((p.step honours s).after honours steps).stores n).current = _
      rw [ih, step_current, hsplit, List.getLast?_append, Option.or_assoc]

end

/-! ## What a client that resumes its sessions would see -/

section
variable {p : Pairing} {name : Net.ServerName} {now : Int} {c s : Session}

/-- Two sides that resume find the newest ticket for a name, where every ticket is honoured. -/
theorem ticket?_of_resumes {client server : Configuration} (hclient : client.resumes = true)
    (hserver : server.resumes = true) (hhonours : ∀ t now, honours t now = true)
    (stores : Nat → CredentialStore) (tickets : List Ticket) :
    (Pairing.mk stores client server tickets).ticket? honours name now =
      tickets.find? fun t => t.name = name := by
  unfold ticket?
  rw [hclient, hserver]
  simp only [hhonours, Bool.and_self, Bool.and_true, if_true]

/-- The ticket of the first handshake cuts short the next one for the same name. -/
theorem ticket?_of_met (hclient : p.client.resumes = true) (hserver : p.server.resumes = true)
    (hhonours : ∀ t now, honours t now = true)
    (hc : (p.meet honours name now).2.client = .ok c)
    (hs : (p.meet honours name now).2.server = .ok s) (later : Int) :
    ∃ t : Ticket, (p.meet honours name now).1.ticket? honours name later = some t ∧
      t.client = c ∧ t.server = s := by
  obtain ⟨stores, client, server, tickets⟩ := p
  dsimp only at hclient hserver
  unfold Pairing.meet at hc hs ⊢
  cases hfound : Pairing.ticket? honours ⟨stores, client, server, tickets⟩ name now with
  | some t =>
      simp only [hfound] at hc hs ⊢
      refine ⟨t, ?_, Except.ok.inj hc, Except.ok.inj hs⟩
      rw [← hfound, ticket?_of_resumes honours hclient hserver hhonours,
        ticket?_of_resumes honours hclient hserver hhonours]
  | none =>
      simp only [hfound] at hc hs ⊢
      refine ⟨⟨name, c, s⟩, ?_, rfl, rfl⟩
      rw [ticket?_of_resumes honours hclient hserver hhonours]
      simp [ticketsAfter, hc, hs, hclient]

/-- If the client resumed its sessions, a rotation would not reach it: the next handshake for a name
would end as the first one did, with the chains that were current then. -/
theorem resumed_outcome (hclient : p.client.resumes = true) (hserver : p.server.resumes = true)
    (hhonours : ∀ t now, honours t now = true)
    (hc : (p.meet honours name now).2.client = .ok c)
    (hs : (p.meet honours name now).2.server = .ok s) (store : Nat) (i : Identity) (later : Int) :
    let o := (((p.meet honours name now).1.rotate store i).meet honours name later).2
    o.client = .ok c ∧ o.server = .ok s := by
  intro o
  obtain ⟨t, hfound, rfl, rfl⟩ := ticket?_of_met honours hclient hserver hhonours hc hs later
  have hfound' :
      ((p.meet honours name now).1.rotate store i).ticket? honours name later = some t := hfound
  have ho : o = t.outcome := by
    show (Pairing.meet honours _ name later).2 = _
    rw [Pairing.meet, hfound']
  rw [ho]
  exact ⟨rfl, rfl⟩

end

/-! ## Every handshake of this program -/

/-- Whatever was rotated and whoever met before, the outcome of a handshake is `between` of the
identities that were rotated in last, the roots, the name and the instant.  The server finishes
exactly if both stores hold an identity that the other side's check accepts; then the client has
finished as well, in TLS 1.3, and each side has seen the other's current chain. -/
theorem meet_after (stores : Nat → CredentialStore) (client server : Nat) (cr sr : TrustPool)
    (before : List Step) (name : Net.ServerName) (now : Int) :
    let p := (Pairing.new stores client server cr sr).after honours before
    let o := (p.meet honours name now).2
    let clientId := (p.stores client).current
    let serverId := (p.stores server).current
    clientId = (rotations client before).getLast?.or (stores client).current ∧
    serverId = (rotations server before).getLast?.or (stores server).current ∧
    o = between cr sr clientId serverId name now ∧
    ((∃ t, o.server = .ok t) ↔
      ∃ c s, clientId = some c ∧ serverId = some s ∧
        verifyServer cr s name now = .ok () ∧ verifyClient sr c now = .ok ()) ∧
    (∀ t, o.server = .ok t →
      ∃ c s u, clientId = some c ∧ serverId = some s ∧ o.client = .ok u ∧
        u.version = .tls13 ∧ t.version = .tls13 ∧
        u.peer = some s.chain ∧ t.peer = some c.chain) := by
  intro p o clientId serverId
  have hstart : Unacquainted (Pairing.new stores client server cr sr) client server cr sr :=
    ⟨rfl, rfl, rfl⟩
  have ho : o = between cr sr clientId serverId name now :=
    congrArg Prod.snd ((hstart.after honours before).meet honours name now)
  refine ⟨after_current honours _ client before, after_current honours _ server before, ho, ?_, ?_⟩
  · rw [ho]
    exact between_server_ok_iff
  · intro t ht
    rw [ho] at ht ⊢
    obtain ⟨c, s, hc, hs, -, -, rfl, hu⟩ := between_server_ok ht
    exact ⟨c, s, _, hc, hs, hu, rfl, rfl, rfl, rfl⟩

end Pairing
end CertRotation.Tls
