/-
Handshakes with a stranger: a TLS stack that somebody else has set up.

A stranger enables versions, suites and groups of its own, known here or not, so
they are code points.  As a client it makes an offer, and this side picks from
it.  As a server it picks, and this side looks whether it had offered what was
picked.  For the rest a stranger does what it likes: it breaks off, asks for a
certificate or does not, and presents any chain or none, with or without a
signature that fits it.
-/
import CertRotation.Tls.Handshake

namespace CertRotation.Tls

/-! ## Code points -/

def Version.code : Version → UInt16
  | .tls13 => 0x0304
  | .tls12 => 0x0303

def Suite.code : Suite → UInt16
  | .aes256 => 0x1302
  | .aes128 => 0x1301
  | .chacha20 => 0x1303
  | .ecdheEcdsaAes256 => 0xC02C
  | .ecdheEcdsaAes128 => 0xC02B
  | .ecdheEcdsaChacha20 => 0xCCA9
  | .ecdheRsaAes256 => 0xC030
  | .ecdheRsaAes128 => 0xC02F
  | .ecdheRsaChacha20 => 0xCCA8

def Group.code : Group → UInt16
  | .x25519 => 0x001D
  | .secp256r1 => 0x0017
  | .secp384r1 => 0x0018

/-- What a side enables, each list in order of preference. -/
structure Offer where
  versions : List UInt16
  suites : List UInt16
  groups : List UInt16
deriving DecidableEq, Repr

/-- What a handshake goes on with. -/
structure Terms where
  version : Version
  suite : Suite
  group : Group
deriving DecidableEq, Repr

/-- What a server of another make goes on with. -/
structure Pick where
  version : UInt16
  suite : UInt16
  group : UInt16
deriving DecidableEq, Repr

def Terms.pick (t : Terms) : Pick :=
  ⟨t.version.code, t.suite.code, t.group.code⟩

inductive Unoffered where
  | version
  | suite
  | group
deriving DecidableEq, Repr

namespace Policy

/-- What a side with a policy offers: no version without a suite for it. -/
def offer (p : Policy) : Offer :=
  ⟨(p.versions.filter p.supports).map (·.code), p.suites.map (·.code), p.groups.map (·.code)⟩

/-! ## Picking from an offer -/

/-- The highest version that an offer and a policy have in common. -/
def pickVersion? (p : Policy) (o : Offer) : Option Version :=
  [Version.tls13, Version.tls12].find? fun v => o.versions.contains v.code && p.supports v

/-- The first suite of an offer that can be used in a version with this kind of key. -/
def pickSuite? (p : Policy) (o : Offer) (v : Version) (key : KeyAlgorithm) : Option Suite :=
  o.suites.findSome? fun code =>
    p.suites.find? fun s => s.code == code && s.version == v && fits key s

/-- The group: in TLS 1.3 one that a key was sent for, if there is one, else one that was offered. -/
def pickGroup? (p : Policy) (o : Offer) (shares : List UInt16) (v : Version) : Option Group :=
  let sent := if v = .tls13 then shares else []
  (p.groups.find? fun g => sent.contains g.code).or
    (p.groups.find? fun g => o.groups.contains g.code)

section
variable {p : Policy} {o : Offer} {v : Version}

theorem mem_versions_of_supports (h : p.supports v = true) : v ∈ p.versions :=
  List.contains_iff_mem.mp (Bool.and_eq_true_iff.mp h).1

theorem of_pickVersion? (h : p.pickVersion? o = some v) :
    v.code ∈ o.versions ∧ p.supports v = true := by
  unfold pickVersion? at h
  have hfound := List.find?_some h
  simp only [Bool.and_eq_true, List.contains_iff_mem] at hfound
  exact hfound

theorem of_pickSuite? {key : KeyAlgorithm} {s : Suite} (h : p.pickSuite? o v key = some s) :
    s ∈ p.suites ∧ s.code ∈ o.suites ∧ s.version = v := by
  obtain ⟨code, hcode, hs⟩ := List.exists_of_findSome?_eq_some h
  have hfound := List.find?_some hs
  simp only [Bool.and_eq_true, beq_iff_eq] at hfound
  obtain ⟨⟨rfl, hversion⟩, -⟩ := hfound
  exact ⟨List.mem_of_find?_eq_some hs, hcode, hversion⟩

theorem of_pickGroup? {shares : List UInt16} {g : Group} (h : p.pickGroup? o shares v = some g) :
    g ∈ p.groups ∧ (g.code ∈ shares ∨ g.code ∈ o.groups) := by
  rcases Option.or_eq_some_iff.mp h with hg | ⟨-, hg⟩
  · refine ⟨List.mem_of_find?_eq_some hg, Or.inl ?_⟩
    have hsent := List.find?_some hg
    split at hsent
    · exact List.contains_iff_mem.mp hsent
    · nomatch hsent
  · have hoffered := List.find?_some hg
    exact ⟨List.mem_of_find?_eq_some hg, Or.inr (List.contains_iff_mem.mp hoffered)⟩

end

/-! ## Looking at a pick -/

/-- The terms of a pick, if all of it was offered and the suite belongs to the version. -/
def terms (p : Policy) (k : Pick) : Except Unoffered Terms :=
  match p.versions.find? fun v => v.code == k.version && p.supports v with
  | none => .error .version
  | some v =>
    match p.suites.find? fun s => s.code == k.suite && s.version == v with
    | none => .error .suite
    | some s =>
      match p.groups.find? fun g => g.code == k.group with
      | none => .error .group
      | some g => .ok ⟨v, s, g⟩

end Policy

/-! ## Looking at a chain -/

/-- The chain that a stranger presents, and whether it signed the handshake with the key of the
first certificate. -/
structure Presented where
  chain : List Bytes
  signed : Bool
deriving DecidableEq, Repr

/-- Checks a chain for a purpose against trusted roots. -/
def verifyLeaf (roots : TrustPool) (leaf : Bytes) (issuers : List Bytes) (purpose : X509.Purpose)
    (now : Int) : Except X509.Fault X509.Certificate := do
  let c ← X509.Certificate.ofDer leaf
  X509.verifyChain roots.roots c issuers purpose now
  return c

/-- A server's check of a client's chain. -/
def verifyClientLeaf (roots : TrustPool) (now : Int) (leaf : Bytes) (issuers : List Bytes) :
    Except CertificateFault Unit :=
  match verifyLeaf roots leaf issuers .client now with
  | .error f => .error (.ofFault f)
  | .ok _ => .ok ()

/-- A client's check of a server's chain, then of its name. -/
def verifyServerLeaf (roots : TrustPool) (name : Net.ServerName) (now : Int) (leaf : Bytes)
    (issuers : List Bytes) : Except CertificateFault Unit :=
  match verifyLeaf roots leaf issuers .server now with
  | .error f => .error (.ofFault f)
  | .ok c =>
    match c.verifyName name with
    | .error f => .error (.ofFault f)
    | .ok () => .ok ()

/-- Vets what a stranger presents: there is a chain, it is verified, and it was signed for. -/
def vet (verify : Bytes → List Bytes → Except CertificateFault Unit) (p : Presented) :
    Except Failure Unit :=
  match p.chain with
  | [] => .error .noCertificatesPresented
  | leaf :: issuers =>
    match verify leaf issuers with
    | .error f => .error (.invalidCertificate f)
    | .ok () => if p.signed then .ok () else .error (.invalidCertificate .badSignature)

/-! ## This side as the server -/

/-- What a client does when it has seen the terms and the server's chain. -/
inductive Reply where
  | breaksOff (alert : Alert)
  /-- It goes on; no chain where it sends no certificate. -/
  | presents (presented : Presented)

structure StrangeClient where
  offer : Offer
  /-- The groups that it sends a key for at once. -/
  shares : List UInt16
  /-- The name that it asks for. -/
  asksFor : Option String
  reply : Terms → List Bytes → Reply
  shares_offered : ∀ g ∈ shares, g ∈ offer.groups

/-- What a server picks from an offer, and the identity that it presents. -/
def Endpoint.pick (server : Endpoint) (o : Offer) (shares : List UInt16) :
    Except Failure (Terms × Identity) :=
  match server.policy.pickVersion? o with
  | none => .error (.incompatible .noVersion)
  | some v =>
    match server.store.forClient.1 with
    | none => .error .noChain
    | some i =>
      match server.policy.pickSuite? o v i.key.algorithm with
      | none => .error (.incompatible .noCipherSuites)
      | some s =>
        match server.policy.pickGroup? o shares v with
        | none => .error (.incompatible .noGroups)
        | some g => .ok (⟨v, s, g⟩, i)

/-- What is picked is allowed on this side and was offered by the other. -/
structure Picked (p : Policy) (o : Offer) (shares : List UInt16) (t : Terms) : Prop where
  version : p.supports t.version = true
  versionOffered : t.version.code ∈ o.versions
  suite : t.suite ∈ p.suites
  suiteOffered : t.suite.code ∈ o.suites
  suiteVersion : t.suite.version = t.version
  group : t.group ∈ p.groups
  groupOffered : t.group.code ∈ shares ∨ t.group.code ∈ o.groups

/-- A server picks within its policy and the offer, and presents the identity that is current. -/
theorem Endpoint.of_pick {server : Endpoint} {o : Offer} {shares : List UInt16} {t : Terms}
    {i : Identity} (h : server.pick o shares = .ok (t, i)) :
    Picked server.policy o shares t ∧ server.store.current = some i := by
  unfold pick at h
  split at h
  · nomatch h
  · rename_i v hv
    split at h
    · nomatch h
    · rename_i held hheld
      split at h
      · nomatch h
      · rename_i s hs
        split at h
        · nomatch h
        · rename_i g hg
          obtain ⟨hoffered, hsupports⟩ := Policy.of_pickVersion? hv
          obtain ⟨hsuite, hsuiteOffered, hversion⟩ := Policy.of_pickSuite? hs
          obtain ⟨hgroup, hgroupOffered⟩ := Policy.of_pickGroup? hg
          cases h
          rw [CredentialStore.forClient_fst] at hheld
          exact ⟨⟨hsupports, hoffered, hsuite, hsuiteOffered, hversion, hgroup, hgroupOffered⟩,
            hheld⟩

/-- A full handshake in which a stranger connects to this side. -/
def serve (server : Endpoint) (client : StrangeClient) (now : Int) : Except Failure Session :=
  match server.pick client.offer client.shares with
  | .error f => .error f
  | .ok (t, i) =>
    match client.reply t i.chain with
    | .breaksOff a => .error (.alertReceived a)
    | .presents p =>
      if server.authenticates then
        match vet (verifyClientLeaf server.roots now) p with
        | .error f => .error f
        | .ok () => .ok ⟨t.version, t.suite, t.group, some p.chain, client.asksFor⟩
      else .ok ⟨t.version, t.suite, t.group, none, client.asksFor⟩

/-! ## This side as the client -/

/-- What a server answers to an offer. -/
structure Flight where
  pick : Pick
  presented : Presented
  /-- Whether it asks for a certificate. -/
  asks : Bool

/-- A server of another make.  It picks what it has enabled, offered or not. -/
structure StrangeServer where
  enabled : Offer
  answer : Offer → Except Alert Flight
  /-- What it has against the client's chain, or against there being none. -/
  objection : Option (List Bytes) → Option Alert
  answer_enabled : ∀ o f, answer o = .ok f →
    f.pick.version ∈ enabled.versions ∧ f.pick.suite ∈ enabled.suites ∧
      f.pick.group ∈ enabled.groups

/-- Why a client does not finish with a stranger. -/
inductive Refusal where
  | failure (f : Failure)
  /-- The server picked what was not offered. -/
  | unoffered (what : Unoffered)

/-- A full handshake in which this side connects to a stranger.  In TLS 1.3 it is over before the
server has said what it thinks of the client's certificate. -/
def connect (client : Endpoint) (server : StrangeServer) (name : Net.ServerName) (now : Int) :
    Except Refusal Session :=
  match server.answer client.policy.offer with
  | .error a => .error (.failure (.alertReceived a))
  | .ok f =>
    match client.policy.terms f.pick with
    | .error u => .error (.unoffered u)
    | .ok t =>
      match vet (verifyServerLeaf client.roots name now) f.presented with
      | .error e => .error (.failure e)
      | .ok () =>
        let session : Session := ⟨t.version, t.suite, t.group, some f.presented.chain, none⟩
        -- In TLS 1.2 the server's last word comes after the client's certificate.
        if t.version = .tls13 then .ok session
        else
          match server.objection (if f.asks then client.clientIdentity.1.map (·.chain) else none) with
          | some a => .error (.failure (.alertReceived a))
          | none => .ok session

/-! ## A side of this make, seen as a stranger -/

/-- The alert that announces what a side has found. -/
def Failure.announced : Failure → Alert
  | .invalidCertificate f => f.alert
  | .noCertificatesPresented => .certificateRequired
  | .incompatible .noVersion => .protocolVersion
  | .incompatible .noCipherSuites | .incompatible .noGroups => .handshakeFailure
  | .alertReceived a => a
  | .general _ => .accessDenied

namespace Endpoint

/-- The groups that a client of this make sends a key for at once. -/
def shares (client : Endpoint) : List UInt16 :=
  (client.policy.groups.take 1).map (·.code)

/-- A client that goes on if it can verify the server, and then presents what it holds. -/
def asStrangeClient (client : Endpoint) (name : Net.ServerName) (now : Int) : StrangeClient where
  offer := client.policy.offer
  shares := client.shares
  asksFor := sentName name
  reply _ chain :=
    match vet (verifyServerLeaf client.roots name now) ⟨chain, true⟩ with
    | .error f => .breaksOff f.announced
    | .ok () => .presents ⟨(client.clientIdentity.1.map (·.chain)).getD [], true⟩
  shares_offered := fun _ hg =>
    List.map_subset _ (List.take_subset 1 client.policy.groups) hg

/-- What a server has against the chain of a client, or against there being none. -/
def objection (server : Endpoint) (now : Int) (chain : Option (List Bytes)) : Option Alert :=
  if server.authenticates then
    match vet (verifyClientLeaf server.roots now) ⟨chain.getD [], true⟩ with
    | .error f => some f.announced
    | .ok () => none
  else none

/-- A server that takes the same decisions as one that a stranger connects to. -/
def asStrangeServer (server : Endpoint) (shares : List UInt16) (now : Int) : StrangeServer where
  enabled := server.policy.offer
  answer o :=
    match server.pick o shares with
    | .error f => .error f.announced
    | .ok (t, i) => .ok ⟨t.pick, ⟨i.chain, true⟩, server.authenticates⟩
  objection := server.objection now
  answer_enabled := by
    intro o f hf
    cases hpick : server.pick o shares with
    | error e => rw [hpick] at hf; nomatch hf
    | ok found =>
        rw [hpick] at hf
        cases hf
        have h := (of_pick hpick).1
        exact ⟨List.mem_map_of_mem (List.mem_filter.mpr
            ⟨Policy.mem_versions_of_supports h.version, h.version⟩),
          List.mem_map_of_mem h.suite, List.mem_map_of_mem h.group⟩

end Endpoint
end CertRotation.Tls
