/-
# `Proofs.Conversation.LongName` — what becomes of a name that does not fit

A greeter reads 256 octets of a line and goes by them, whether or not the line ends there.  Of a name
that leaves no room for the line feed it gets to see the first 250 octets:

    they make up characters      ⟹  these are greeted, and the rest is lost        (`request_of_takes`)
    they end inside a character  ⟹  the octets are no text, and there is no reply   (`request_of_not_takes`)

So a long name comes back whole only if all that is lost of it is white space, and a request is
refused only if the limit falls inside a character.
-/
import CertRotation.Proofs.Greeter.Answering

namespace CertRotation

open Text Net

/-! ## The greeter's side -/

namespace Greeter

section
variable {name part : List Char}

/-- A name that does not fit is cut: what is taken of it is what the octets that fit say. -/
theorem takes_iff_decode? (hlong : maxName < (Utf8.encode name).length) :
    Takes name part ↔ Utf8.decode? ((Utf8.encode name).take maxName) = some part := by
  rw [Utf8.decode?_eq_some_iff]
  constructor
  · rintro ⟨⟨rest, rfl⟩, ⟨hall, hfits⟩ | hpart⟩
    · omega
    · rw [Utf8.encode_append, ← hpart, List.take_left]
  · intro h
    have hlength := congrArg List.length h
    rw [List.length_take, Nat.min_eq_left (Nat.le_of_lt hlong)] at hlength
    exact ⟨Utf8.prefix_of_encode_prefix (h ▸ List.take_prefix maxName _), Or.inr hlength.symm⟩

theorem Takes.not_mem (h : Takes name part) (hfeed : '\n' ∉ name) : '\n' ∉ part := by
  intro hmem
  exact hfeed (h.1.subset hmem)

end

section
variable {name : String}

/-- What counts of the request for a name that does not fit. -/
theorem counted_request_long (g : Greeting) (hfeed : '\n' ∉ name.toList)
    (hlong : maxName < (Utf8.encode name.toList).length) :
    counted (Utf8.encode (g.request name).toList) =
      Utf8.encode (g.verb.toList ++ [' ']) ++ (Utf8.encode name.toList).take maxName := by
  have hverb : (Utf8.encode (g.verb.toList ++ [' '])).length = 6 := length_encode_verb g []
  have hnot : lineFeed ∉ Utf8.encode (g.verb.toList ++ ' ' :: name.toList) :=
    fun hmem => not_mem_line g hfeed (lineFeed_mem_encode.mp hmem)
  have hparts : g.verb.toList ++ ' ' :: name.toList = (g.verb.toList ++ [' ']) ++ name.toList := by
    rw [List.append_assoc, List.singleton_append]
  have hrest : maxRequest - 6 ≤ (Utf8.encode name.toList).length := Nat.le_of_lt hlong
  rw [counted, encode_request, firstLine_append hnot, hparts, Utf8.encode_append, List.append_assoc,
    List.take_append, hverb, List.take_of_length_le (by rw [hverb]; decide),
    List.take_append_of_le_length hrest]
  rfl

theorem isWhole_request (g : Greeting) (name : String) :
    IsWhole ⟨Utf8.encode (g.request name).toList, .pending⟩ := by
  refine Or.inl ?_
  rw [encode_request]
  exact List.mem_append_right _ (List.mem_singleton_self lineFeed)

/-- What is taken of a name is greeted as if it were the name, -/
theorem answer_of_takes (g : Greeting) (serverName : Option String) {part : List Char}
    (hfeed : '\n' ∉ name.toList) (h : Takes name.toList part) :
    answer serverName ⟨Utf8.encode (g.request name).toList, .pending⟩ =
      greet serverName (g, String.ofList (trim part)) := by
  by_cases hlong : maxName < (Utf8.encode name.toList).length
  · have hpart := (takes_iff_decode? hlong).mp h
    have hread : Utf8.decode? (counted (Utf8.encode (g.request name).toList)) =
        some (g.verb.toList ++ ' ' :: part) := by
      rw [counted_request_long g hfeed hlong, Utf8.decode?_encode_append, hpart, Option.map_some,
        List.append_assoc, List.singleton_append]
    unfold answer request?
    simp only [readText_of_isWhole (isWhole_request g name), hread, Greeting.ofRequest?_trimEnd]
  · have hfits : (Utf8.encode name.toList).length ≤ maxName := Nat.le_of_not_lt hlong
    have hall : part = name.toList := by
      rcases h with ⟨hbegins, ⟨hall, -⟩ | hlength⟩
      · exact hall
      · obtain ⟨rest, hrest⟩ := hbegins
        have hsum := congrArg (fun s => (Utf8.encode s).length) hrest
        simp only [Utf8.encode_append, List.length_append] at hsum
        have hnothing : Utf8.encode rest = [] := List.length_eq_zero_iff.mp (by omega)
        have hdecoded := Utf8.decode?_encode rest
        rw [hnothing] at hdecoded
        rw [← hrest, ← Option.some.inj hdecoded, List.append_nil]
    rw [answer_request g serverName hfits, heard_of_not_mem hfeed, hall]

/-- and where nothing is taken, the answer is none. -/
theorem answer_of_not_takes (g : Greeting) (serverName : Option String)
    (hfeed : '\n' ∉ name.toList) (h : ∀ part, ¬ Takes name.toList part) :
    answer serverName ⟨Utf8.encode (g.request name).toList, .pending⟩ = ⟨[], .broken cutOff⟩ := by
  have hlong : maxName < (Utf8.encode name.toList).length := by
    by_contra hfits
    exact h _ ⟨List.prefix_refl _, Or.inl ⟨rfl, Nat.le_of_not_lt hfits⟩⟩
  have hnone : Utf8.decode? ((Utf8.encode name.toList).take maxName) = none := by
    rw [Option.eq_none_iff_forall_ne_some]
    intro part hpart
    exact h part ((takes_iff_decode? hlong).mpr hpart)
  have hread : Utf8.decode? (counted (Utf8.encode (g.request name).toList)) = none := by
    rw [counted_request_long g hfeed hlong, Utf8.decode?_encode_append, hnone, Option.map_none]
  simp only [answer, readText_of_isWhole (isWhole_request g name), hread]

end
end Greeter

/-! ## Both sides -/

namespace Conversation

section
variable {cs ss : CredentialStore} {cr sr : TrustPool} {target : Target} {given : Option String}
  {name : String} {timeout : Duration} {r : Requester} {now : Int} {session : Tls.Session}

/-- What is taken of a name is greeted, -/
theorem request_of_takes (hnew : Requester.new? target given name timeout = .ok r)
    (hsession : (Tls.handshake (.hardened cs cr) (.hardened ss sr) r.serverName now).server =
      .ok session) (g : Greeting) (hfeed : '\n' ∉ name.toList) {part : List Char}
    (h : Greeter.Takes name.toList part) :
    r.request g (greeterPeer .loopback
        (Tls.handshake (.hardened cs cr) (.hardened ss sr) r.serverName now)) =
      .ok (g.reply (String.ofList (trim part)) (session.serverName.getD "unknown")) := by
  obtain ⟨⟨text, hparsed⟩, hname⟩ := Requester.serverName_of_new? hnew
  obtain ⟨hrequest, hsent⟩ := request_of_session hsession g
  have hserver : '\n' ∉ (session.serverName.getD Greeter.unnamed).toList := by
    rw [hsent]
    exact ServerName.not_mem_sentName hparsed
  have htrimmed : '\n' ∉ (String.ofList (trim part)).toList := by
    rw [String.toList_ofList]
    exact fun hmem => h.not_mem hfeed (mem_of_mem_trim hmem)
  rw [hrequest, Requester.line, hname, Greeter.answer_of_takes g session.serverName hfeed h]
  exact Requester.readReply_greet htrimmed hserver

/-- and a name of which nothing is taken is refused. -/
theorem request_of_not_takes (hnew : Requester.new? target given name timeout = .ok r)
    (hsession : (Tls.handshake (.hardened cs cr) (.hardened ss sr) r.serverName now).server =
      .ok session) (g : Greeting) (hfeed : '\n' ∉ name.toList)
    (h : ∀ part, ¬ Greeter.Takes name.toList part) :
    r.request g (greeterPeer .loopback
        (Tls.handshake (.hardened cs cr) (.hardened ss sr) r.serverName now)) =
      .error (.io cutOff) := by
  obtain ⟨-, hname⟩ := Requester.serverName_of_new? hnew
  obtain ⟨hrequest, -⟩ := request_of_session hsession g
  rw [hrequest, Requester.line, hname, Greeter.answer_of_not_takes g session.serverName hfeed h,
    Requester.readReply, Stream.upTo_arrivals]
  rfl

end

theorem reply_inj {g : Greeting} {name name' serverName : String}
    (h : g.reply name serverName = g.reply name' serverName) : name = name' := by
  have hlists := congrArg String.toList h
  rw [Requester.toList_reply, Requester.toList_reply] at hlists
  have hfront := List.append_cancel_right (List.append_cancel_right (List.append_cancel_right hlists))
  exact String.toList_injective (List.append_cancel_left hfront)

/-- What comes of a request for a name without a line feed, however long it is, if the handshake
succeeds.  The reply greets what the greeter takes of the name, and without that there is an error and
no reply.  So the whole name is greeted exactly if all that the greeter does not take is white space. -/
theorem greeted_as_taken {cs ss : CredentialStore} {cr sr : TrustPool} {target : Target}
    {given : Option String} {name : String} {timeout : Duration} {r : Requester} {now : Int}
    {session : Tls.Session} (hnew : Requester.new? target given name timeout = .ok r)
    (hfeed : '\n' ∉ name.toList)
    (hsession : (Tls.handshake (.hardened cs cr) (.hardened ss sr) r.serverName now).server =
      .ok session) (g : Greeting) :
    let outcome := r.request g (greeterPeer .loopback
      (Tls.handshake (.hardened cs cr) (.hardened ss sr) r.serverName now))
    let reply (part : List Char) : String :=
      g.reply (String.ofList (trim part)) (session.serverName.getD "unknown")
    (∀ text, outcome = .ok text ↔ ∃ part, Greeter.Takes name.toList part ∧ text = reply part) ∧
    ((∀ part, ¬ Greeter.Takes name.toList part) → outcome = .error (.io cutOff)) ∧
    (outcome = .ok (reply name.toList) ↔
      ∃ part rest, name.toList = part ++ rest ∧ Greeter.Takes name.toList part ∧
        ∀ c ∈ rest, isBlank c = true) := by
  intro outcome reply
  have htaken {part : List Char} (h : Greeter.Takes name.toList part) : outcome = .ok (reply part) :=
    request_of_takes hnew hsession g hfeed h
  have hreplies (text : String) :
      outcome = .ok text ↔ ∃ part, Greeter.Takes name.toList part ∧ text = reply part := by
    constructor
    · intro h
      by_cases hsome : ∃ part, Greeter.Takes name.toList part
      · obtain ⟨part, hpart⟩ := hsome
        exact ⟨part, hpart, Except.ok.inj (h.symm.trans (htaken hpart))⟩
      · have hrefused : outcome = .error (.io cutOff) :=
          request_of_not_takes hnew hsession g hfeed fun part hpart => hsome ⟨part, hpart⟩
        rw [hrefused] at h
        nomatch h
    · rintro ⟨part, hpart, rfl⟩
      exact htaken hpart
  refine ⟨hreplies, request_of_not_takes hnew hsession g hfeed, ?_⟩
  rw [hreplies]
  constructor
  · rintro ⟨part, hpart, hsame⟩
    obtain ⟨rest, hrest⟩ := hpart.1
    have htrim : trim name.toList = trim part := String.ofList_injective (reply_inj hsame)
    rw [← hrest] at htrim
    exact ⟨part, rest, hrest.symm, hpart, trim_append_eq_iff.mp htrim⟩
  · rintro ⟨part, rest, hname, hpart, hblank⟩
    refine ⟨part, hpart, ?_⟩
    show reply name.toList = reply part
    simp only [reply]
    rw [hname, trim_append_blanks part hblank]

/-- A requester that asks `localhost` for a name. -/
theorem new?_localhost (name : String) :
    ∃ r, Requester.new? ⟨"localhost", 443⟩ none name (.ofSecs 10) = .ok r ∧
      r.serverName = .dns "localhost" :=
  ⟨⟨⟨"localhost", 443⟩, .dns "localhost", name, .ofSecs 10⟩, rfl, rfl⟩

/-! ### Names of the letter `a` -/

theorem encode_letters (n : Nat) : Utf8.encode (List.replicate n 'a') = List.replicate n 97 := by
  induction n with
  | zero => rfl
  | succ n ih =>
      rw [List.replicate_succ, Utf8.encode_cons, ih]
      rfl

theorem length_letters (n : Nat) : (Utf8.encode (List.replicate n 'a')).length = n := by
  rw [encode_letters, List.length_replicate]

theorem not_mem_letters (n : Nat) : '\n' ∉ List.replicate n 'a' := by
  intro h
  exact absurd (List.eq_of_mem_replicate h) (by decide)

theorem trim_letters (n : Nat) : trim (List.replicate n 'a') = List.replicate n 'a' := by
  refine trim_eq_self ?_
  intro c hc
  rw [List.eq_of_mem_replicate hc]
  decide

/-- A name of 251 octets, of which the last two are one character. -/
def cutName : String :=
  String.ofList (List.replicate 249 'a' ++ ['é'])

theorem toList_cutName : cutName.toList = List.replicate 249 'a' ++ ['é'] :=
  String.toList_ofList

theorem encode_cutName :
    Utf8.encode cutName.toList = Utf8.encode (List.replicate 249 'a') ++ [0xC3, 0xA9] := by
  have hlast : Utf8.encode ['é'] = [0xC3, 0xA9] := rfl
  rw [toList_cutName, Utf8.encode_append, hlast]

theorem not_takes_cutName (part : List Char) : ¬ Greeter.Takes cutName.toList part := by
  have hlong : Greeter.maxName < (Utf8.encode cutName.toList).length := by
    rw [encode_cutName, List.length_append, length_letters]
    decide
  have hfirst : (Utf8.encode cutName.toList).take Greeter.maxName =
      Utf8.encode (List.replicate 249 'a') ++ [0xC3] := by
    rw [encode_cutName, List.take_append, length_letters,
      List.take_of_length_le (by rw [length_letters]; decide)]
    rfl
  have hhalf : Utf8.decode? [0xC3] = none := rfl
  rw [Greeter.takes_iff_decode? hlong, hfirst, Utf8.decode?_encode_append, hhalf]
  intro h
  nomatch h

/-- The limit falls inside a character, so nothing of the name is greeted. -/
theorem greeted_as_taken_cut :
    ∃ r session, Requester.new? ⟨"localhost", 443⟩ none cutName (.ofSecs 10) = .ok r ∧
      '\n' ∉ cutName.toList ∧
      (Tls.handshake (.hardened localhostStore localhostRoots)
        (.hardened localhostStore localhostRoots) r.serverName 1760000000).server = .ok session ∧
      ∀ g : Greeting, r.request g (greeterPeer .loopback
        (Tls.handshake (.hardened localhostStore localhostRoots)
          (.hardened localhostStore localhostRoots) r.serverName 1760000000)) =
        .error (.io cutOff) := by
  obtain ⟨r, hnew, hname⟩ := new?_localhost cutName
  obtain ⟨session, hsession, -⟩ := exists_localhost_session
  rw [← hname] at hsession
  have hfeed : '\n' ∉ cutName.toList := by
    rw [toList_cutName, List.mem_append]
    rintro (h | h)
    · exact not_mem_letters 249 h
    · exact absurd h (by decide)
  refine ⟨r, session, hnew, hfeed, hsession, ?_⟩
  intro g
  exact (greeted_as_taken hnew hfeed hsession g).2.1 not_takes_cutName

/-- A name of 251 letters. -/
def longName : String :=
  String.ofList (List.replicate 251 'a')

/-- A name of 251 letters is greeted without its last one. -/
theorem long_name_shortened :
    ∃ r session, Requester.new? ⟨"localhost", 443⟩ none longName (.ofSecs 10) = .ok r ∧
      '\n' ∉ longName.toList ∧
      (Tls.handshake (.hardened localhostStore localhostRoots)
        (.hardened localhostStore localhostRoots) r.serverName 1760000000).server = .ok session ∧
      session.serverName = some "localhost" ∧
      r.request .hello (greeterPeer .loopback
        (Tls.handshake (.hardened localhostStore localhostRoots)
          (.hardened localhostStore localhostRoots) r.serverName 1760000000)) =
        .ok (Greeting.hello.reply (String.ofList (List.replicate 250 'a')) "localhost") ∧
      Greeting.hello.reply (String.ofList (List.replicate 250 'a')) "localhost" ≠
        Greeting.hello.reply (String.ofList (trim longName.toList)) "localhost" := by
  obtain ⟨r, hnew, hname⟩ := new?_localhost longName
  obtain ⟨session, hsession, hsent⟩ := exists_localhost_session
  rw [← hname] at hsession
  have hletters : longName.toList = List.replicate 251 'a' := String.toList_ofList
  have hfeed : '\n' ∉ longName.toList := by
    rw [hletters]
    exact not_mem_letters 251
  have htakes : Greeter.Takes longName.toList (List.replicate 250 'a') := by
    refine ⟨⟨['a'], ?_⟩, Or.inr (length_letters 250)⟩
    rw [hletters]
    exact List.replicate_succ'.symm
  refine ⟨r, session, hnew, hfeed, hsession, hsent, ?_, ?_⟩
  · rw [request_of_takes hnew hsession .hello hfeed htakes, hsent, trim_letters]
    rfl
  · intro hsame
    have hlength := congrArg List.length (String.ofList_injective (reply_inj hsame))
    rw [hletters, trim_letters, List.length_replicate, List.length_replicate] at hlength
    nomatch hlength

end Conversation
end CertRotation
