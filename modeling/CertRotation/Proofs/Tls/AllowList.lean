/-
# `Proofs.Tls.AllowList` — a stranger is held to the allow-list

Whatever a stranger enables, and in whatever order, a handshake that this side finishes uses nothing
that is not on both lists.  The laws, for any policy:

    a server picks what it allows and the client offered             (`Endpoint.of_pick`)
    a client goes on with what it offered and the server enabled     (`of_terms`)
    a server that authenticates finishes  ⟺  it picks, and a chain was presented, verified and
                                              signed for             (`serve_ok_iff`)

For the hardened policy they make `Allowed`.  That the picking is the one of two sides of this make
is proved as well: a side seen as a stranger meets the other as it does in `handshake`
(`serve_asStrangeClient`, `connect_asStrangeServer`).
-/
import CertRotation.Tls.Stranger

namespace CertRotation.Tls

/-! ## Code points tell what they stand for -/

theorem Version.code_inj {v w : Version} (h : v.code = w.code) : v = w := by
  cases v <;> cases w <;> first | rfl | exact absurd h (by decide)

theorem Suite.code_inj {s t : Suite} (h : s.code = t.code) : s = t := by
  cases s <;> cases t <;> first | rfl | exact absurd h (by decide)

theorem Group.code_inj {g k : Group} (h : g.code = k.code) : g = k := by
  cases g <;> cases k <;> first | rfl | exact absurd h (by decide)

/-- Looking for what only one element can be finds that element, if it is there and will do. -/
theorem find?_of_unique {α : Type} [DecidableEq α] (l : List α) {will : α → Bool} {a : α}
    (honly : ∀ b, will b = true → b = a) :
    l.find? will = if l.contains a && will a then some a else none := by
  cases hfound : l.find? will with
  | none =>
      have hnone := List.find?_eq_none.mp hfound
      rw [if_neg]
      intro h
      obtain ⟨ha, hwill⟩ := Bool.and_eq_true_iff.mp h
      exact hnone a (List.contains_iff_mem.mp ha) hwill
  | some b =>
      have hwill := List.find?_some hfound
      obtain rfl := honly b hwill
      rw [List.contains_iff_mem.mpr (List.mem_of_find?_eq_some hfound), hwill]
      rfl

/-- An element is in a list if its code point is, where code points tell elements apart. -/
theorem contains_map_code {α : Type} [DecidableEq α] {code : α → UInt16}
    (hcode : ∀ {a b}, code a = code b → a = b) (l : List α) (a : α) :
    (l.map code).contains (code a) = l.contains a := by
  rw [Bool.eq_iff_iff, List.contains_iff_mem, List.contains_iff_mem, List.mem_map]
  constructor
  · rintro ⟨b, hb, h⟩
    rw [← hcode h]
    exact hb
  · exact fun h => ⟨a, h, rfl⟩

/-! ## Two sides of this make -/

namespace Policy

variable (client server : Policy)

theorem contains_offer_versions (v : Version) :
    client.offer.versions.contains v.code = client.supports v := by
  unfold offer
  rw [contains_map_code Version.code_inj, Bool.eq_iff_iff, List.contains_iff_mem, List.mem_filter]
  exact ⟨And.right, fun h => ⟨mem_versions_of_supports h, h⟩⟩

theorem contains_offer_suites (s : Suite) :
    client.offer.suites.contains s.code = client.suites.contains s :=
  contains_map_code Suite.code_inj client.suites s

theorem contains_offer_groups (g : Group) :
    client.offer.groups.contains g.code = client.groups.contains g :=
  contains_map_code Group.code_inj client.groups g

/-- What is picked from the offer of another policy is the version that both support. -/
theorem pickVersion?_offer : server.pickVersion? client.offer = version? client server := by
  unfold pickVersion? version?
  simp only [contains_offer_versions]

/-- Going through the client's suites by their code points is going through the suites. -/
theorem pickSuite?_offer (v : Version) (key : KeyAlgorithm) :
    server.pickSuite? client.offer v key = suite? client server v key := by
  unfold pickSuite? suite? offer
  simp only [List.findSome?_map, Bool.and_assoc]
  -- For each of the client's suites, the server's list is searched for what only that suite can be.
  induction client.suites with
  | nil => rfl
  | cons s rest ih =>
      have hfind :
          server.suites.find? (fun t => t.code == s.code && (t.version == v && fits key t)) =
          if server.suites.contains s && (s.version == v && fits key s) then some s else none := by
        rw [find?_of_unique server.suites (a := s) fun t ht =>
          Suite.code_inj (beq_iff_eq.mp (Bool.and_eq_true_iff.mp ht).1), beq_self_eq_true,
          Bool.true_and]
      rw [List.findSome?_cons, List.find?_cons, Function.comp_apply, hfind, ih, Bool.and_left_comm]
      cases s.version == v && (server.suites.contains s && fits key s) <;> rfl

theorem pickGroup?_offer (v : Version) :
    server.pickGroup? client.offer ((client.groups.take 1).map (·.code)) v =
      group? client server v := by
  have hsent (gs : List Group) :
      server.groups.find? ((gs.take 1).contains ·) = (gs.take 1).find? server.groups.contains := by
    cases gs with
    | nil => exact List.find?_eq_none.mpr fun _ _ => Bool.false_ne_true
    | cons k _ =>
        have hone (g : Group) : [k].contains g = (g == k) := by
          rw [Bool.eq_iff_iff]
          simp
        simp only [List.take_succ_cons, List.take_zero, hone]
        rw [find?_of_unique server.groups (fun _ => beq_iff_eq.mp), beq_self_eq_true, Bool.and_true]
        simp only [List.find?_cons, List.find?_nil]
        cases server.groups.contains k <;> rfl
  unfold pickGroup? group? offer
  by_cases hv : v = .tls13
  · simp only [if_pos hv, contains_map_code Group.code_inj, hsent]
  · have hnone : (server.groups.find? fun g => ([] : List UInt16).contains g.code) = none :=
      List.find?_eq_none.mpr fun _ _ => Bool.false_ne_true
    simp only [if_neg hv, contains_map_code Group.code_inj, hnone]
    rfl

/-- A pick that was offered is gone on with. -/
theorem terms_pick {shares : List UInt16} {t : Terms}
    (hshares : ∀ g ∈ shares, g ∈ client.offer.groups)
    (h : Picked server client.offer shares t) : client.terms t.pick = .ok t := by
  have hversion := List.contains_iff_mem.mpr h.versionOffered
  rw [contains_offer_versions] at hversion
  have hsuite := List.contains_iff_mem.mpr h.suiteOffered
  rw [contains_offer_suites] at hsuite
  have hgroup := List.contains_iff_mem.mpr (h.groupOffered.elim (hshares _) id)
  rw [contains_offer_groups] at hgroup
  have hv : client.versions.find? (fun v => v.code == t.version.code && client.supports v) =
      some t.version := by
    rw [find?_of_unique client.versions fun v hv =>
      Version.code_inj (beq_iff_eq.mp (Bool.and_eq_true_iff.mp hv).1)]
    simp [hversion, mem_versions_of_supports hversion]
  have hs : client.suites.find? (fun s => s.code == t.suite.code && s.version == t.version) =
      some t.suite := by
    rw [find?_of_unique client.suites fun s hs =>
      Suite.code_inj (beq_iff_eq.mp (Bool.and_eq_true_iff.mp hs).1)]
    simp [List.contains_iff_mem.mp hsuite, h.suiteVersion]
  have hg : client.groups.find? (fun g => g.code == t.group.code) = some t.group := by
    rw [find?_of_unique client.groups fun g hg => Group.code_inj (beq_iff_eq.mp hg)]
    simp [List.contains_iff_mem.mp hgroup]
  unfold terms Terms.pick
  simp only [hv, hs, hg]

end Policy

section
variable (client server : Endpoint) (name : Net.ServerName) (now : Int)

/-- How a handshake ends for both: with the server's refusal, or as it is finished from its pick. -/
theorem handshake_eq_pick :
    (∃ f, server.pick client.policy.offer client.shares = .error f ∧
      ∃ events, handshake client server name now = .refusedByServer f f.announced events) ∨
    (∃ t i, server.pick client.policy.offer client.shares = .ok (t, i) ∧
      handshake client server name now =
        finish client server name now t.version t.suite t.group i) := by
  unfold handshake Endpoint.pick Endpoint.shares CredentialStore.forClient
  rw [Policy.pickVersion?_offer]
  cases Policy.version? client.policy server.policy with
  | none => exact Or.inl ⟨_, rfl, _, rfl⟩
  | some v =>
      cases server.store.current with
      | none => exact Or.inl ⟨_, rfl, _, rfl⟩
      | some i =>
          simp only [Policy.pickSuite?_offer, Policy.pickGroup?_offer]
          cases Policy.suite? client.policy server.policy v i.key.algorithm with
          | none => exact Or.inl ⟨_, rfl, _, rfl⟩
          | some s =>
              cases Policy.group? client.policy server.policy v with
              | none => exact Or.inl ⟨_, rfl, _, rfl⟩
              | some g => exact Or.inr ⟨⟨v, s, g⟩, i, rfl, rfl⟩

/-- What an identity presents passes exactly if its chain is verified, since it signs. -/
theorem vet_chain (verify : Bytes → List Bytes → Except CertificateFault Unit) (i : Identity) :
    vet verify ⟨i.chain, true⟩ = (verify i.leaf i.issuers).mapError .invalidCertificate := by
  unfold vet Identity.chain
  simp only
  cases verify i.leaf i.issuers <;> rfl

theorem verifyServerLeaf_identity (roots : TrustPool) (i : Identity) :
    verifyServerLeaf roots name now i.leaf i.issuers = verifyServer roots i name now := rfl

theorem verifyClientLeaf_identity (roots : TrustPool) (i : Identity) :
    verifyClientLeaf roots now i.leaf i.issuers = verifyClient roots i now := rfl

theorem mapError_ok (u : Unit) :
    (Except.ok u : Except CertificateFault Unit).mapError Failure.invalidCertificate = .ok u := rfl

/-- A client of this make, seen as a stranger, leaves the server with what it has from the
handshake. -/
theorem serve_asStrangeClient :
    serve server (client.asStrangeClient name now) now =
      (handshake client server name now).server := by
  unfold serve
  rcases handshake_eq_pick client server name now with
    ⟨f, hpick, events, hshake⟩ | ⟨t, i, hpick, hshake⟩
  · rw [hshake]
    simp only [Endpoint.asStrangeClient, hpick]
    rfl
  · rw [hshake]
    simp only [Endpoint.asStrangeClient, hpick, vet_chain, verifyServerLeaf_identity, finish]
    rcases client.clientIdentity with ⟨held, events⟩
    cases verifyServer client.roots i name now with
    | error f => rfl
    | ok _ =>
        cases server.authenticates with
        | false => rfl
        | true =>
            cases held with
            | none => rfl
            | some c =>
                simp only [if_true, mapError_ok, Option.map_some, Option.getD_some, vet_chain,
                  verifyClientLeaf_identity]
                cases verifyClient server.roots c now <;> rfl

/-- What a client has of the end of a handshake: its own verdict on the server, then the server's
objection to what it presents. -/
theorem finish_client (t : Terms) (i : Identity) :
    ((finish client server name now t.version t.suite t.group i).client,
      (finish client server name now t.version t.suite t.group i).clientReady) =
      match verifyServer client.roots i name now with
      | .error f => (.error (.invalidCertificate f), false)
      | .ok () =>
        match server.objection now
            (if server.authenticates then client.clientIdentity.1.map (·.chain) else none) with
        | some a => (.error (.alertReceived a), t.version == .tls13)
        | none => (.ok ⟨t.version, t.suite, t.group, some i.chain, none⟩, true) := by
  unfold finish Endpoint.objection
  rcases client.clientIdentity with ⟨held, events⟩
  cases verifyServer client.roots i name now with
  | error f => rfl
  | ok _ =>
      cases server.authenticates with
      | false => rfl
      | true =>
          cases held with
          | none => rfl
          | some c =>
              simp only [if_true, Option.map_some, Option.getD_some, vet_chain,
                verifyClientLeaf_identity]
              cases verifyClient server.roots c now <;> rfl

/-- With a server of this make, seen as a stranger, a client finishes if it has done its part of the
handshake, and is refused as in the handshake otherwise. -/
theorem connect_asStrangeServer :
    ((handshake client server name now).clientReady = true ∧
      ∃ t, connect client (server.asStrangeServer client.shares now) name now = .ok t ∧
        ∀ t', (handshake client server name now).client = .ok t' → t' = t) ∨
    ((handshake client server name now).clientReady = false ∧
      ∃ f, (handshake client server name now).client = .error f ∧
        connect client (server.asStrangeServer client.shares now) name now =
          .error (.failure f)) := by
  rcases handshake_eq_pick client server name now with
    ⟨f, hpick, events, hshake⟩ | ⟨t, i, hpick, hshake⟩
  · refine Or.inr ?_
    rw [hshake]
    refine ⟨rfl, _, rfl, ?_⟩
    simp only [connect, Endpoint.asStrangeServer, hpick]
  · have hterms : client.policy.terms t.pick = .ok t :=
      Policy.terms_pick client.policy server.policy (client.asStrangeClient name now).shares_offered
        (Endpoint.of_pick hpick).1
    have hfinish := finish_client client server name now t i
    rw [hshake]
    simp only [connect, Endpoint.asStrangeServer, hpick, hterms, vet_chain,
      verifyServerLeaf_identity]
    cases hverdict : verifyServer client.roots i name now with
    | error f =>
        rw [hverdict] at hfinish
        obtain ⟨hc, hready⟩ := Prod.mk.inj hfinish
        exact Or.inr ⟨hready, _, hc, rfl⟩
    | ok _ =>
        rw [hverdict] at hfinish
        simp only [mapError_ok]
        cases hobjection : server.objection now
            (if server.authenticates then client.clientIdentity.1.map (·.chain) else none) with
        | none =>
            rw [hobjection] at hfinish
            obtain ⟨hc, hready⟩ := Prod.mk.inj hfinish
            refine Or.inl ⟨hready, _, ite_self _, ?_⟩
            intro t' ht'
            exact Except.ok.inj (ht'.symm.trans hc)
        | some a =>
            rw [hobjection] at hfinish
            obtain ⟨hc, hready⟩ := Prod.mk.inj hfinish
            -- In TLS 1.3 the client does not wait for what the server objects.
            by_cases hv : t.version = .tls13
            · rw [if_pos hv]
              refine Or.inl ⟨hready.trans (beq_iff_eq.mpr hv), _, rfl, ?_⟩
              intro t' ht'
              rw [hc] at ht'
              cases ht'
            · rw [if_neg hv]
              exact Or.inr ⟨hready.trans (beq_eq_false_iff_ne.mpr hv), _, hc, rfl⟩

end

/-! ## What a finished handshake shows -/

section
variable {p : Policy} {k : Pick} {t : Terms}

/-- What a client goes on with is on its own lists and is what the server picked. -/
theorem of_terms (h : p.terms k = .ok t) :
    p.supports t.version = true ∧ t.suite ∈ p.suites ∧ t.suite.version = t.version ∧
      t.group ∈ p.groups ∧ t.pick = k := by
  unfold Policy.terms at h
  split at h
  · nomatch h
  · rename_i v hv
    split at h
    · nomatch h
    · rename_i s hs
      split at h
      · nomatch h
      · rename_i g hg
        obtain rfl := Except.ok.inj h
        have hversion := List.find?_some hv
        have hsuite := List.find?_some hs
        have hgroup := List.find?_some hg
        simp only [Bool.and_eq_true, beq_iff_eq] at hversion hsuite hgroup
        refine ⟨hversion.2, List.mem_of_find?_eq_some hs, hsuite.2, List.mem_of_find?_eq_some hg,
          ?_⟩
        unfold Terms.pick
        rw [hversion.1, hsuite.1, hgroup]

/-- What a server of another make picks and a client goes on with was enabled by both. -/
theorem StrangeServer.picked {s : StrangeServer} {f : Flight} (hanswer : s.answer p.offer = .ok f)
    (hterms : p.terms f.pick = .ok t) : Picked p s.enabled [] t := by
  obtain ⟨hversion, hsuite, hbelongs, hgroup, hpick⟩ := of_terms hterms
  obtain ⟨hv, hs, hg⟩ := s.answer_enabled _ _ hanswer
  rw [← hpick] at hv hs hg
  exact ⟨hversion, hv, hsuite, hs, hbelongs, hgroup, Or.inr hg⟩

end

/-- What passes is a chain that is verified and was signed for. -/
theorem vet_ok_iff {verify : Bytes → List Bytes → Except CertificateFault Unit} {p : Presented} :
    vet verify p = .ok () ↔
      ∃ leaf issuers, p = ⟨leaf :: issuers, true⟩ ∧ verify leaf issuers = .ok () := by
  constructor
  · intro h
    obtain ⟨chain, signed⟩ := p
    cases chain with
    | nil => nomatch h
    | cons leaf issuers =>
        simp only [vet] at h
        cases hverify : verify leaf issuers with
        | error f =>
            rw [hverify] at h
            nomatch h
        | ok _ =>
            rw [hverify] at h
            cases signed with
            | false => nomatch h
            | true => exact ⟨leaf, issuers, rfl, hverify⟩
  · rintro ⟨leaf, issuers, rfl, hverify⟩
    simp only [vet, hverify, if_true]

theorem verifyClientLeaf_ok_iff {roots : TrustPool} {now : Int} {leaf : Bytes}
    {issuers : List Bytes} :
    verifyClientLeaf roots now leaf issuers = .ok () ↔
      ∃ c, X509.Certificate.ofDer leaf = .ok c ∧
        X509.verifyChain roots.roots c issuers .client now = .ok () := by
  unfold verifyClientLeaf verifyLeaf
  constructor
  · intro h
    cases hleaf : X509.Certificate.ofDer leaf with
    | error f =>
        rw [hleaf] at h
        nomatch h
    | ok c =>
        rw [hleaf] at h
        cases hchain : X509.verifyChain roots.roots c issuers .client now with
        | error f =>
            simp only [bind, Except.bind, hchain] at h
            nomatch h
        | ok _ => exact ⟨c, rfl, hchain⟩
  · rintro ⟨c, hleaf, hchain⟩
    simp only [hleaf, bind, Except.bind, hchain, pure, Except.pure]

/-- A server that authenticates finishes exactly with a client that it picks something for, and that
presents a chain which is verified and signed for. -/
theorem serve_ok_iff {server : Endpoint} {client : StrangeClient} {now : Int} {t : Session}
    (hauth : server.authenticates = true) :
    serve server client now = .ok t ↔
      ∃ i leaf issuers, server.pick client.offer client.shares =
          .ok (⟨t.version, t.suite, t.group⟩, i) ∧
        client.reply ⟨t.version, t.suite, t.group⟩ i.chain = .presents ⟨leaf :: issuers, true⟩ ∧
        verifyClientLeaf server.roots now leaf issuers = .ok () ∧
        t.peer = some (leaf :: issuers) ∧ t.serverName = client.asksFor := by
  constructor
  · intro h
    unfold serve at h
    split at h
    · nomatch h
    · rename_i terms i hpick
      split at h
      · nomatch h
      · rename_i p hreply
        rw [if_pos hauth] at h
        split at h
        · nomatch h
        · rename_i hvet
          obtain rfl := Except.ok.inj h
          obtain ⟨leaf, issuers, rfl, hverify⟩ := vet_ok_iff.mp hvet
          exact ⟨i, leaf, issuers, hpick, hreply, hverify, rfl, rfl⟩
  · rintro ⟨i, leaf, issuers, hpick, hreply, hverify, hpeer, hname⟩
    have hvet : vet (verifyClientLeaf server.roots now) ⟨leaf :: issuers, true⟩ = .ok () :=
      vet_ok_iff.mpr ⟨leaf, issuers, rfl, hverify⟩
    simp only [serve, hpick, hreply, if_pos hauth, hvet, ← hpeer, ← hname]

/-- A server picks something for a client that has a suite for the version, and a group, in common
with it. -/
theorem exists_pick {server : Endpoint} {o : Offer} {v : Version} {i : Identity} {s : Suite}
    {g : Group} (shares : List UInt16) (hcurrent : server.store.current = some i)
    (hv : server.policy.pickVersion? o = some v) (hs : s ∈ server.policy.suites)
    (hsv : s.version = v) (hso : s.code ∈ o.suites) (hfits : Policy.fits i.key.algorithm s = true)
    (hg : g ∈ server.policy.groups) (hgo : g.code ∈ o.groups) :
    ∃ s' g', server.pick o shares = .ok (⟨v, s', g'⟩, i) := by
  obtain ⟨s', hs'⟩ : ∃ s', server.policy.pickSuite? o v i.key.algorithm = some s' := by
    refine Option.ne_none_iff_exists'.mp fun hnone => ?_
    have hall := List.find?_eq_none.mp (List.findSome?_eq_none_iff.mp hnone s.code hso) s hs
    simp [hsv, hfits] at hall
  obtain ⟨g', hg'⟩ : ∃ g', server.policy.pickGroup? o shares v = some g' := by
    refine Option.ne_none_iff_exists'.mp fun hnone => ?_
    have hall := List.find?_eq_none.mp (Option.or_eq_none_iff.mp hnone).2 g hg
    simp [hgo] at hall
  refine ⟨s', g', ?_⟩
  simp only [Endpoint.pick, hv, CredentialStore.forClient_fst, hcurrent, hs', hg']

/-- What a client has found when it finishes. -/
theorem connect_ok {client : Endpoint} {server : StrangeServer} {name : Net.ServerName} {now : Int}
    {t : Session} (h : connect client server name now = .ok t) :
    Picked client.policy server.enabled [] ⟨t.version, t.suite, t.group⟩ := by
  unfold connect at h
  split at h
  · nomatch h
  · rename_i f hanswer
    split at h
    · nomatch h
    · rename_i terms hterms
      have hpicked := StrangeServer.picked hanswer hterms
      split at h
      · nomatch h
      · split at h
        · obtain rfl := Except.ok.inj h
          exact hpicked
        · split at h
          · nomatch h
          · obtain rfl := Except.ok.inj h
            exact hpicked

/-- A client finishes with a server that picks what it offered in TLS 1.3, and that presents a chain
which is verified for the name and signed for. -/
theorem connect_of_terms {client : Endpoint} {server : StrangeServer} {name : Net.ServerName}
    {now : Int} {f : Flight} {t : Terms} {leaf : Bytes} {issuers : List Bytes}
    (hanswer : server.answer client.policy.offer = .ok f)
    (hterms : client.policy.terms f.pick = .ok t) (hversion : t.version = .tls13)
    (hpresented : f.presented = ⟨leaf :: issuers, true⟩)
    (hverify : verifyServerLeaf client.roots name now leaf issuers = .ok ()) :
    connect client server name now =
      .ok ⟨t.version, t.suite, t.group, some (leaf :: issuers), none⟩ := by
  have hvet : vet (verifyServerLeaf client.roots name now) ⟨leaf :: issuers, true⟩ = .ok () :=
    vet_ok_iff.mpr ⟨leaf, issuers, rfl, hverify⟩
  simp only [connect, hanswer, hterms, hpresented, hvet, if_pos hversion]

/-! ## The allow-list -/

/-- A session with a stranger keeps to the allow-list, and to what the stranger enabled. -/
structure Allowed (enabled : Offer) (t : Session) : Prop where
  version : t.version = .tls13 ∨ t.version = .tls12
  versionEnabled : t.version.code ∈ enabled.versions
  suite : t.suite ∈ [.aes256, .aes128, .chacha20, .ecdheEcdsaChacha20, .ecdheEcdsaAes128]
  suiteEnabled : t.suite.code ∈ enabled.suites
  suiteVersion : t.suite.version = t.version
  tls12 : t.version = .tls12 → t.suite = .ecdheEcdsaChacha20 ∨ t.suite = .ecdheEcdsaAes128
  group : t.group = .secp384r1 ∨ t.group = .secp256r1
  groupEnabled : t.group.code ∈ enabled.groups

/-- What is picked under the hardened policy is allowed. -/
theorem Picked.allowed {o : Offer} {shares : List UInt16} {t : Session}
    (h : Picked .hardened o shares ⟨t.version, t.suite, t.group⟩)
    (hshares : ∀ g ∈ shares, g ∈ o.groups) : Allowed o t where
  version := by cases t.version with
    | tls13 => exact Or.inl rfl
    | tls12 => exact Or.inr rfl
  versionEnabled := h.versionOffered
  suite := h.suite
  suiteEnabled := h.suiteOffered
  suiteVersion := h.suiteVersion
  tls12 := by
    intro htls12
    have hsuites : ∀ s ∈ Policy.hardened.suites, s.version = .tls12 →
        s = .ecdheEcdsaChacha20 ∨ s = .ecdheEcdsaAes128 := by decide
    exact hsuites _ h.suite (h.suiteVersion.trans htls12)
  group := by
    have hgroup : t.group ∈ [Group.secp384r1, .secp256r1] := h.group
    simpa using hgroup
  groupEnabled := h.groupOffered.elim (hshares _) id

/-- Whatever a stranger enables and does, and whatever this side's store holds and its pool trusts:

- as the server, this side finishes only within the allow-list and what the client offered, and only
  with a client that presented a chain, which signs and is verified under the pool;
- as the client, it finishes only within the allow-list and what the server enabled;
- as the server, it never finishes with a client that has no suite for a version of its own in
  common with this side, or X25519 alone for its groups, or no certificate to send.

The list is not kept by refusing everybody.  A server finishes with every client that has a suite for
the highest common version, usable with the server's key, and a group in common with it, and that
presents such a chain; a client finishes with every server that picks of its offer in TLS 1.3 and
presents a chain that is verified for the name. -/
theorem stranger_held_to_allow_list (store : CredentialStore) (roots : TrustPool) (now : Int) :
    (∀ (client : StrangeClient) (t : Session), serve (.hardened store roots) client now = .ok t →
      Allowed client.offer t ∧
      ∃ i leaf issuers c, store.current = some i ∧
        client.reply ⟨t.version, t.suite, t.group⟩ i.chain = .presents ⟨leaf :: issuers, true⟩ ∧
        t.peer = some (leaf :: issuers) ∧ X509.Certificate.ofDer leaf = .ok c ∧
        X509.verifyChain roots.roots c issuers .client now = .ok ()) ∧
    (∀ (server : StrangeServer) (name : Net.ServerName) (t : Session),
      connect (.hardened store roots) server name now = .ok t → Allowed server.enabled t) ∧
    (∀ client : StrangeClient,
      (∀ s ∈ Policy.hardened.suites, s.version.code ∈ client.offer.versions →
        s.code ∉ client.offer.suites) ∨
      (∀ g ∈ client.offer.groups, g = Group.x25519.code) ∨
      (∀ terms chain p, client.reply terms chain = .presents p → p.chain = []) →
      ∀ t, serve (.hardened store roots) client now ≠ .ok t) ∧
    (∀ (client : StrangeClient) (i : Identity) (v : Version) (leaf : Bytes) (issuers : List Bytes)
      (c : X509.Certificate),
      store.current = some i → Policy.hardened.pickVersion? client.offer = some v →
      (∃ s ∈ Policy.hardened.suites, s.version = v ∧ s.code ∈ client.offer.suites ∧
        Policy.fits i.key.algorithm s = true) →
      (∃ g ∈ Policy.hardened.groups, g.code ∈ client.offer.groups) →
      (∀ terms, client.reply terms i.chain = .presents ⟨leaf :: issuers, true⟩) →
      X509.Certificate.ofDer leaf = .ok c →
      X509.verifyChain roots.roots c issuers .client now = .ok () →
      ∃ t, serve (.hardened store roots) client now = .ok t ∧ t.version = v) ∧
    (∀ (server : StrangeServer) (name : Net.ServerName) (f : Flight) (s : Suite) (g : Group)
      (leaf : Bytes) (issuers : List Bytes),
      s ∈ Policy.hardened.suites → s.version = .tls13 → g ∈ Policy.hardened.groups →
      server.answer Policy.hardened.offer = .ok f → f.pick = ⟨Version.tls13.code, s.code, g.code⟩ →
      f.presented = ⟨leaf :: issuers, true⟩ →
      verifyServerLeaf roots name now leaf issuers = .ok () →
      ∃ t, connect (.hardened store roots) server name now = .ok t) := by
  have hserve (client : StrangeClient) (t : Session) :=
    @serve_ok_iff (.hardened store roots) client now t rfl
  refine ⟨?_, ?_, ?_, ?_, ?_⟩
  · intro client t h
    obtain ⟨i, leaf, issuers, hpick, hreply, hverify, hpeer, -⟩ := (hserve client t).mp h
    obtain ⟨hpicked, hcurrent⟩ := Endpoint.of_pick hpick
    obtain ⟨c, hleaf, hchain⟩ := verifyClientLeaf_ok_iff.mp hverify
    exact ⟨hpicked.allowed client.shares_offered, i, leaf, issuers, c, hcurrent, hreply, hpeer, hleaf,
      hchain⟩
  · intro server name t h
    have hpicked : Picked .hardened server.enabled [] ⟨t.version, t.suite, t.group⟩ := connect_ok h
    exact hpicked.allowed fun _ h => absurd h List.not_mem_nil
  · intro client hnone t h
    obtain ⟨i, leaf, issuers, hpick, hreply, -⟩ := (hserve client t).mp h
    have hpicked := (Endpoint.of_pick hpick).1
    have hallowed := hpicked.allowed client.shares_offered
    rcases hnone with hsuites | hgroups | hcertificate
    · refine hsuites _ hpicked.suite ?_ hallowed.suiteEnabled
      rw [hallowed.suiteVersion]
      exact hallowed.versionEnabled
    · have hgroup := Group.code_inj (hgroups _ hallowed.groupEnabled)
      rcases hallowed.group with hg | hg <;> rw [hg] at hgroup <;> nomatch hgroup
    · exact absurd (hcertificate _ _ _ hreply) (List.cons_ne_nil _ _)
  · rintro client i v leaf issuers c hcurrent hv ⟨s, hs, hsv, hso, hfits⟩ ⟨g, hg, hgo⟩ hreply hleaf
      hchain
    obtain ⟨s', g', hpick⟩ := @exists_pick (.hardened store roots) client.offer v i s g
      client.shares hcurrent hv hs hsv hso hfits hg hgo
    have hverify := verifyClientLeaf_ok_iff.mpr ⟨c, hleaf, hchain⟩
    exact ⟨⟨v, s', g', some (leaf :: issuers), client.asksFor⟩,
      (hserve client _).mpr ⟨i, leaf, issuers, hpick, hreply _, hverify, rfl, rfl⟩, rfl⟩
  · intro server name f s g leaf issuers hs hsv hg hanswer hpick hpresented hverify
    have htls13 : Version.tls13.code ∈ Policy.hardened.offer.versions := by decide
    have hoffered : Picked .hardened Policy.hardened.offer [] ⟨.tls13, s, g⟩ :=
      ⟨rfl, htls13, hs, List.mem_map_of_mem hs, hsv, hg, Or.inr (List.mem_map_of_mem hg)⟩
    have hterms : Policy.hardened.terms f.pick = .ok ⟨.tls13, s, g⟩ := by
      rw [hpick]
      exact Policy.terms_pick .hardened .hardened (fun _ h => absurd h List.not_mem_nil) hoffered
    exact ⟨_, @connect_of_terms (.hardened store roots) server name now f ⟨.tls13, s, g⟩ leaf issuers
      hanswer hterms rfl hpresented hverify⟩

end CertRotation.Tls
