/-
# `Proofs.Conversation` — a requester and a greeter understand each other

The request line takes six octets besides the name and the line feed, so a name of at most 250
octets is read whole by a greeter that takes 256.  At the limit the line feed no longer fits, and
the greeter goes by the end of what it takes:

    the line arrives                 ⟹  the greeter knows greeting and trimmed name   (`answer_request`)
    the greeter's line arrives       ⟹  the requester has the reply as it was made     (`readReply_greet`)
    the handshake has succeeded      ⟹  both together                                  (`request_heard`)

The reply stays one line because neither the name nor the name of the server holds a line feed.
-/
import CertRotation.Conversation
import CertRotation.Proofs.Greeting
import CertRotation.Proofs.KeyCheck
import CertRotation.Proofs.Net.ServerName
import CertRotation.Proofs.Net.Stream
import CertRotation.Proofs.Tls.Rotation

namespace CertRotation

open Text Net

/-! ## The greeter's side -/

namespace Greeter

/-- What a greeter gets to see of a name: nothing behind a line feed. -/
def heard (name : List Char) : List Char :=
  name.takeWhile (· ≠ '\n')

theorem heard_of_not_mem {name : List Char} (h : '\n' ∉ name) : heard name = name := by
  refine List.takeWhile_eq_self_iff.mpr fun c hc => ?_
  exact decide_eq_true fun e => h (e ▸ hc)

theorem not_mem_heard (name : List Char) : '\n' ∉ heard name := by
  intro h
  have hall := List.all_eq_true.mp (List.all_takeWhile (p := (· ≠ '\n')) (l := name)) _ h
  exact absurd hall (by decide)

/-- A name is what is heard of it, and perhaps more behind a line feed. -/
theorem exists_heard (name : List Char) :
    name = heard name ∨ ∃ rest, name = heard name ++ '\n' :: rest := by
  have hsplit : heard name ++ name.dropWhile (· ≠ '\n') = name := List.takeWhile_append_dropWhile
  cases hrest : name.dropWhile (· ≠ '\n') with
  | nil =>
      rw [hrest, List.append_nil] at hsplit
      exact Or.inl hsplit.symm
  | cons c rest =>
      have hstop := List.head?_dropWhile_not (· ≠ '\n') name
      rw [hrest, List.head?_cons] at hstop
      have hfeed : c = '\n' := by simpa using hstop
      rw [hrest, hfeed] at hsplit
      exact Or.inr ⟨rest, hsplit.symm⟩

/-- The octets of a request: those of verb, space and name, then the line feed. -/
theorem encode_request (g : Greeting) (name : String) :
    Utf8.encode (g.request name).toList =
      Utf8.encode (g.verb.toList ++ ' ' :: name.toList) ++ [lineFeed] := by
  rw [Greeting.toList_request, ← encode_lineFeed, ← Utf8.encode_append, List.append_assoc,
    List.cons_append]

theorem length_encode_verb (g : Greeting) (name : List Char) :
    (Utf8.encode (g.verb.toList ++ ' ' :: name)).length = 6 + (Utf8.encode name).length := by
  have hverb : (Utf8.encode (g.verb.toList ++ [' '])).length = 6 := by
    cases g <;> rfl
  rw [← List.singleton_append, ← List.append_assoc, Utf8.encode_append, List.length_append, hverb]

/-- What a greeter takes of a request: verb and name in any case, and the line feed unless the name
has all 250 octets. -/
theorem truncate_request (g : Greeting) {name : String}
    (hlength : (Utf8.encode name.toList).length ≤ 250) :
    ∃ tail ending,
      Stream.truncate maxRequest ⟨Utf8.encode (g.request name).toList, .pending⟩ =
        ⟨Utf8.encode (g.verb.toList ++ ' ' :: name.toList) ++ tail, ending⟩ ∧
      (tail = [lineFeed] ∨ (tail = [] ∧ ending = .closed)) := by
  have hlong := length_encode_verb g name.toList
  unfold Stream.truncate
  rw [encode_request]
  by_cases hfull : (Utf8.encode name.toList).length = 250
  · have hall : (Utf8.encode (g.verb.toList ++ ' ' :: name.toList)).length = maxRequest := by
      rw [hlong, hfull, maxRequest]
    have hfits : maxRequest ≤
        (Utf8.encode (g.verb.toList ++ ' ' :: name.toList) ++ [lineFeed]).length := by
      rw [List.length_append, hall]
      exact Nat.le_add_right _ _
    refine ⟨[], .closed, ?_, Or.inr ⟨rfl, rfl⟩⟩
    rw [if_pos hfits, List.append_nil, ← hall, List.take_left]
  · have hall : (Utf8.encode (g.verb.toList ++ ' ' :: name.toList) ++ [lineFeed]).length ≤
        maxRequest := by
      rw [List.length_append, hlong, List.length_singleton, maxRequest]
      omega
    split
    · exact ⟨[lineFeed], .closed, by rw [List.take_of_length_le hall], Or.inl rfl⟩
    · exact ⟨[lineFeed], .pending, rfl, Or.inl rfl⟩

/-- A line feed in a request comes from the name. -/
theorem not_mem_line (g : Greeting) {name : List Char} (h : '\n' ∉ name) :
    '\n' ∉ g.verb.toList ++ ' ' :: name := by
  intro hmem
  rcases List.mem_append.mp hmem with hmem | hmem
  · exact absurd (Greeting.not_blank_of_mem_verb hmem) (by decide)
  · rcases List.mem_cons.mp hmem with hmem | hmem
    · exact absurd hmem (by decide)
    · exact h hmem

/-- A greeter has read the line of a request once it has arrived, the line feed aside. -/
theorem readText_request (g : Greeting) {name : String}
    (hlength : (Utf8.encode name.toList).length ≤ 250) :
    ∃ feed, (∀ c ∈ feed, isBlank c = true) ∧
      (Stream.truncate maxRequest ⟨Utf8.encode (g.request name).toList, .pending⟩).readText =
        some (.ok (g.verb.toList ++ ' ' :: (heard name.toList ++ feed))) := by
  obtain ⟨tail, ending, htaken, htail⟩ := truncate_request g hlength
  rw [htaken]
  have hline := not_mem_line g (not_mem_heard name.toList)
  have hfeed (c : Char) (hc : c ∈ ['\n']) : isBlank c = true := by
    rw [List.mem_singleton.mp hc]
    decide
  have hparts := exists_heard name.toList
  generalize heard name.toList = p at hline hparts ⊢
  rcases hparts with hname | ⟨rest, hname⟩
  · rw [hname]
    rcases htail with rfl | ⟨rfl, rfl⟩
    · refine ⟨['\n'], hfeed, ?_⟩
      rw [Stream.readText_line hline, List.append_assoc, List.cons_append]
    · refine ⟨[], fun c hc => absurd hc List.not_mem_nil, ?_⟩
      rw [List.append_nil, Stream.readText_closed hline, List.append_nil]
  · have hcut : Utf8.encode (g.verb.toList ++ ' ' :: name.toList) ++ tail =
        Utf8.encode (g.verb.toList ++ ' ' :: p) ++ lineFeed :: (Utf8.encode rest ++ tail) := by
      have hsplit : g.verb.toList ++ ' ' :: name.toList =
          (g.verb.toList ++ ' ' :: p) ++ (['\n'] ++ rest) := by
        rw [hname]
        simp only [List.append_assoc, List.cons_append, List.nil_append]
      rw [hsplit, Utf8.encode_append _ (['\n'] ++ rest), Utf8.encode_append ['\n'], encode_lineFeed]
      simp only [List.append_assoc, List.cons_append, List.nil_append]
    refine ⟨['\n'], hfeed, ?_⟩
    rw [hcut, Stream.readText_line hline, List.append_assoc, List.cons_append]

/-- A greeter answers a request with the greeting for the trimmed name. -/
theorem answer_request (g : Greeting) {name : String} (serverName : Option String)
    (hlength : (Utf8.encode name.toList).length ≤ 250) :
    answer serverName ⟨Utf8.encode (g.request name).toList, .pending⟩ =
      greet serverName (g, String.ofList (trim (heard name.toList))) := by
  obtain ⟨feed, hfeed, hread⟩ := readText_request g hlength
  unfold answer request?
  simp only [hread, Greeting.ofRequest?_trimEnd, trim_append_blanks _ hfeed]

end Greeter

/-! ## The requester's side -/

namespace Requester

section
variable {r : Requester} {g : Greeting} {name : String} {serverName : Option String}

theorem toList_reply (g : Greeting) (name serverName : String) :
    (g.reply name serverName).toList =
      g.salutation.toList ++ name.toList ++ [' ', '('] ++ serverName.toList ++ [')'] := by
  unfold Greeting.reply
  simp only [String.toList_append, List.append_assoc]
  rfl

theorem not_mem_reply (hname : '\n' ∉ name.toList)
    (hserver : '\n' ∉ (serverName.getD Greeter.unnamed).toList) :
    '\n' ∉ (g.reply name (serverName.getD Greeter.unnamed)).toList := by
  have hsalutation : '\n' ∉ g.salutation.toList := by
    cases g <;> decide
  intro h
  rw [toList_reply] at h
  simp only [List.mem_append, List.mem_cons, List.not_mem_nil, or_false, hsalutation, hname,
    hserver, false_or] at h
  revert h
  decide

/-- The greeter's line is read as the reply that it was made of: nothing of it is trimmed, since it
ends with a bracket. -/
theorem readReply_greet (hname : '\n' ∉ name.toList)
    (hserver : '\n' ∉ (serverName.getD Greeter.unnamed).toList) :
    r.readReply (Greeter.greet serverName (g, name)).arrivals =
      .ok (g.reply name (serverName.getD Greeter.unnamed)) := by
  have hread := Stream.readText_line (not_mem_reply (g := g) hname hserver) [] .closed
  have htrim : trimEnd ((g.reply name (serverName.getD Greeter.unnamed)).toList ++ ['\n']) =
      (g.reply name (serverName.getD Greeter.unnamed)).toList := by
    rw [trimEnd_append_blank _ (by decide), toList_reply]
    exact trimEnd_append_word _ (by decide)
  unfold readReply Greeter.greet
  simp only [Stream.upTo_arrivals, hread]
  cases hline : (g.reply name (serverName.getD Greeter.unnamed)).toList ++ ['\n'] with
  | nil => exact absurd hline (List.append_ne_nil_of_right_ne_nil _ (List.cons_ne_nil _ _))
  | cons c rest =>
      simp only [← hline, htrim, String.ofList_toList]

end

/-- The name that a requester asks for was read from a text. -/
theorem serverName_of_new? {target : Target} {given : Option String} {name : String}
    {timeout : Duration} {r : Requester} (h : new? target given name timeout = .ok r) :
    (∃ s, ServerName.parse? s = some r.serverName) ∧ r.name = name := by
  unfold new? at h
  cases given with
  | none =>
      cases hparsed : target.serverName? with
      | none => simp only [hparsed] at h; nomatch h
      | some n =>
          simp only [hparsed] at h
          rw [← Except.ok.inj h]
          exact ⟨⟨_, hparsed⟩, rfl⟩
  | some text =>
      cases hparsed : ServerName.parse? text.toList with
      | none => simp only [hparsed] at h; nomatch h
      | some n =>
          simp only [hparsed] at h
          rw [← Except.ok.inj h]
          exact ⟨⟨_, hparsed⟩, rfl⟩

end Requester

/-! ## Names of servers -/

namespace Net.ServerName

theorem toLower_ne_lineFeed {c : Char} (h : c ≠ '\n') : c.toLower ≠ '\n' := by
  intro heq
  have hval := congrArg Char.val heq
  unfold Char.toLower at hval
  split at hval
  · rename_i hupper
    have hlow : 65 ≤ c.val.toNat := hupper.1
    have hhigh : c.val.toNat ≤ 90 := hupper.2
    have hsum : (c.val + 32).toNat = 10 := congrArg UInt32.toNat hval
    rw [UInt32.toNat_add, show (32 : UInt32).toNat = 32 from rfl] at hsum
    omega
  · exact h (Char.ext hval)

theorem toLower_ne_lineFeed_of_isDnsName {s : List Char} (h : isDnsName s = true) :
    '\n' ∉ s.map Char.toLower := by
  intro hmem
  obtain ⟨c, hc, hlower⟩ := List.mem_map.mp hmem
  have hne : c ≠ '\n' := by
    rintro rfl
    exact absurd (mem_of_isDnsName h hc) (by decide)
  exact toLower_ne_lineFeed hne hlower

/-- The name that goes over the wire is one line, and so is what stands for no name. -/
theorem not_mem_sentName {s : List Char} {n : ServerName} (h : parse? s = some n) :
    '\n' ∉ ((Tls.sentName n).getD Greeter.unnamed).toList := by
  unfold parse? at h
  by_cases hdns : isDnsName s = true
  · rw [if_pos hdns] at h
    rw [← Option.some.inj h]
    have hlower := toLower_ne_lineFeed_of_isDnsName hdns
    simp only [Tls.sentName, Option.getD_some, String.toList_ofList]
    split
    · exact fun hmem => hlower (List.dropLast_subset _ hmem)
    · exact hlower
  · rw [if_neg hdns] at h
    obtain ⟨a, -, rfl⟩ := Option.map_eq_some_iff.mp h
    show '\n' ∉ Greeter.unnamed.toList
    decide

end Net.ServerName

/-! ## Both sides -/

namespace Conversation

section
variable {cs ss : CredentialStore} {cr sr : TrustPool} {r : Requester} {now : Int}
  {session : Tls.Session}

/-- A requester whose handshake a greeter has finished gets what the greeter answers to its line. -/
theorem request_of_session
    (hsession : (Tls.handshake (.hardened cs cr) (.hardened ss sr) r.serverName now).server =
      .ok session) (g : Greeting) :
    r.request g (greeterPeer .loopback
        (Tls.handshake (.hardened cs cr) (.hardened ss sr) r.serverName now)) =
      r.readReply (Greeter.answer session.serverName ⟨r.line g, .pending⟩).arrivals ∧
    session.serverName = Tls.sentName r.serverName := by
  rw [Tls.handshake_hardened] at hsession ⊢
  obtain ⟨c, s, -, -, -, -, rfl, hclient⟩ := Tls.between_server_ok hsession
  have hopened : r.opened? (greeterPeer .loopback
      (Tls.between cr sr cs.current ss.current r.serverName now)) = some .ready := by
    simp only [Requester.opened?, greeterPeer, peer, Network.connect, opening, hclient,
      Option.filter_some, Nat.zero_le, decide_true, if_true, Option.map_some]
  refine ⟨?_, rfl⟩
  unfold Requester.request
  rw [hopened]
  simp only [greeterPeer, peer, Network.connect, reply, hsession, greeter]

end

/-- A request for a name of at most 250 octets gets the greeting for what the greeter hears of the
name, trimmed, if the handshake succeeds. -/
theorem request_heard {cs ss : CredentialStore} {cr sr : TrustPool} {target : Target}
    {given : Option String} {name : String} {timeout : Duration} {r : Requester} {now : Int}
    {session : Tls.Session} (hnew : Requester.new? target given name timeout = .ok r)
    (hlength : (Utf8.encode name.toList).length ≤ 250)
    (hsession : (Tls.handshake (.hardened cs cr) (.hardened ss sr) r.serverName now).server =
      .ok session) (g : Greeting) :
    r.request g (greeterPeer .loopback
        (Tls.handshake (.hardened cs cr) (.hardened ss sr) r.serverName now)) =
      .ok (g.reply (String.ofList (trim (Greeter.heard name.toList)))
        (session.serverName.getD Greeter.unnamed)) := by
  obtain ⟨⟨text, hparsed⟩, hname⟩ := Requester.serverName_of_new? hnew
  obtain ⟨hrequest, hsent⟩ := request_of_session hsession g
  have hserver : '\n' ∉ (session.serverName.getD Greeter.unnamed).toList := by
    rw [hsent]
    exact ServerName.not_mem_sentName hparsed
  have htrimmed : '\n' ∉ (String.ofList (trim (Greeter.heard name.toList))).toList := by
    rw [String.toList_ofList]
    exact fun h => Greeter.not_mem_heard name.toList (mem_of_mem_trim h)
  rw [hrequest, Requester.line, hname, Greeter.answer_request g session.serverName hlength]
  exact Requester.readReply_greet htrimmed hserver

/-- For every greeting and every name of at most 250 octets without a line feed, whatever else is in
it: if the handshake succeeds, the reply of the greeter is the greeting for the trimmed name, with the
name that the session carries, or `unknown` where it carries none. -/
theorem greeting_comes_back {cs ss : CredentialStore} {cr sr : TrustPool} {target : Target}
    {given : Option String} {name : String} {timeout : Duration} {r : Requester} {now : Int}
    {session : Tls.Session} (hnew : Requester.new? target given name timeout = .ok r)
    (hfeed : '\n' ∉ name.toList) (hlength : (Utf8.encode name.toList).length ≤ 250)
    (hsession : (Tls.handshake (.hardened cs cr) (.hardened ss sr) r.serverName now).server =
      .ok session) (g : Greeting) :
    r.request g (greeterPeer .loopback
        (Tls.handshake (.hardened cs cr) (.hardened ss sr) r.serverName now)) =
      .ok (g.reply (String.ofList (trim name.toList)) (session.serverName.getD "unknown")) := by
  have hheard := request_heard hnew hlength hsession g
  rw [Greeter.heard_of_not_mem hfeed] at hheard
  exact hheard

/-! ### An identity that both sides hold -/

section Localhost

open Crypto (WeierstrassCurve Digest)
open PrivateKey (encodeValue encodeNumber)

/-- A distinguished name that is one common name. -/
def commonName (text : String) : Bytes :=
  encodeValue Asn1.Tag.set (encodeValue Asn1.Tag.sequence
    ([0x06, 0x03, 0x55, 0x04, 0x03] ++ encodeValue Asn1.Tag.utf8String (Pem.ascii text)))

/-- The public key of the number one. -/
def firstKey : Bytes :=
  encodeValue Asn1.Tag.sequence (PublicKey.ecAlgorithm .p256) ++
    encodeValue Asn1.Tag.bitString (0 :: Identity.firstPoint)

def ecdsaWithSha256 : Bytes :=
  encodeValue Asn1.Tag.sequence (X509.SignatureAlgorithm.ecdsaId .sha256)

/-- What is said of `localhost`, by a root named `I`, for twenty years. -/
def statement : Bytes :=
  let names := encodeValue Asn1.Tag.sequence (encodeValue [0x82] (Pem.ascii "localhost"))
  encodeValue Asn1.Tag.sequence
    ([0xA0, 0x03, 0x02, 0x01, 0x02, 0x02, 0x01, 0x01] ++ ecdsaWithSha256 ++
      encodeValue Asn1.Tag.sequence (commonName "I") ++
      encodeValue Asn1.Tag.sequence (encodeValue Asn1.Tag.utcTime (Pem.ascii "250101000000Z") ++
        encodeValue Asn1.Tag.utcTime (Pem.ascii "450101000000Z")) ++
      encodeValue Asn1.Tag.sequence (commonName "localhost") ++
      encodeValue Asn1.Tag.sequence firstKey ++
      encodeValue (Asn1.Tag.explicit 3) (encodeValue Asn1.Tag.sequence (encodeValue Asn1.Tag.sequence
        ([0x06, 0x03, 0x55, 0x1D, 17] ++ encodeValue Asn1.Tag.octetString names))))

/-- The signature of the number one, which is its own nonce here: the first coordinate of the base
point, and that plus the digest. -/
def signature : Bytes :=
  let c := WeierstrassCurve.p256
  let r := c.gx % c.n
  let s := (c.digestNumber (Digest.sha256.hash statement) + r) % c.n
  encodeValue Asn1.Tag.sequence (encodeNumber r ++ encodeNumber s)

def localhost : Bytes :=
  encodeValue Asn1.Tag.sequence
    (statement ++ ecdsaWithSha256 ++ encodeValue Asn1.Tag.bitString (0 :: signature))

theorem localhost_publicKey : (X509.Certificate.ofDer localhost).toOption.map (·.publicKey?) =
    some (some (PrivateKey.ec .p256 1).publicKey) := by
  decide +kernel

def localhostIdentity : Identity :=
  ⟨localhost, [], .ec .p256 1, Identity.certifies_of_publicKey localhost_publicKey⟩

def localhostRoots : TrustPool :=
  ⟨[⟨commonName "I", firstKey, none⟩], List.cons_ne_nil _ _⟩

/-- A store that holds the identity. -/
def localhostStore : CredentialStore :=
  ((CredentialStore.new {}).install localhostIdentity).1

/-- Both sides trust it, in the year 2025. -/
theorem localhost_trusted :
    Tls.verifyServer localhostRoots localhostIdentity (.dns "localhost") 1760000000 = .ok () ∧
    Tls.verifyClient localhostRoots localhostIdentity 1760000000 = .ok () := by
  decide +kernel

/-- A session between two sides that hold it. -/
theorem exists_localhost_session :
    ∃ session, (Tls.handshake (.hardened localhostStore localhostRoots)
        (.hardened localhostStore localhostRoots) (.dns "localhost") 1760000000).server =
        .ok session ∧
      session.serverName = some "localhost" := by
  have hholds : localhostStore.current = some localhostIdentity := rfl
  obtain ⟨session, hsession⟩ : ∃ session, (Tls.handshake (.hardened localhostStore localhostRoots)
      (.hardened localhostStore localhostRoots) (.dns "localhost") 1760000000).server =
        .ok session := by
    rw [Tls.handshake_hardened]
    exact Tls.between_server_ok_iff.mpr
      ⟨_, _, hholds, hholds, localhost_trusted.1, localhost_trusted.2⟩
  exact ⟨session, hsession,
    (request_of_session (r := ⟨⟨"localhost", 443⟩, .dns "localhost", "", .ofSecs 10⟩) hsession
      .hello).2⟩

end Localhost

/-- A name between spaces and a tab comes back without them. -/
theorem greeting_comes_back_localhost :
    ∃ r session, Requester.new? ⟨"localhost", 443⟩ none " Ada Lovelace \t" (.ofSecs 10) = .ok r ∧
      (Tls.handshake (.hardened localhostStore localhostRoots)
        (.hardened localhostStore localhostRoots) r.serverName 1760000000).server = .ok session ∧
      ∀ g : Greeting, r.request g (greeterPeer .loopback
        (Tls.handshake (.hardened localhostStore localhostRoots)
          (.hardened localhostStore localhostRoots) r.serverName 1760000000)) =
        .ok (g.reply "Ada Lovelace" "localhost") := by
  obtain ⟨r, hnew⟩ : ∃ r, Requester.new? ⟨"localhost", 443⟩ none " Ada Lovelace \t" (.ofSecs 10) =
      .ok r := ⟨_, rfl⟩
  have hname : r.serverName = .dns "localhost" := by
    rw [← Except.ok.inj hnew]
    decide
  have hholds : localhostStore.current = some localhostIdentity := rfl
  obtain ⟨session, hsession⟩ : ∃ session, (Tls.handshake (.hardened localhostStore localhostRoots)
      (.hardened localhostStore localhostRoots) r.serverName 1760000000).server = .ok session := by
    rw [Tls.handshake_hardened, hname]
    exact Tls.between_server_ok_iff.mpr
      ⟨_, _, hholds, hholds, localhost_trusted.1, localhost_trusted.2⟩
  refine ⟨r, session, hnew, hsession, ?_⟩
  intro g
  have hreply := greeting_comes_back hnew (by decide) (by decide) hsession g
  obtain ⟨-, hsent⟩ := request_of_session hsession g
  rw [hreply, hsent, hname]
  rfl

end Conversation
end CertRotation
