/-
# `Proofs.Greeter.Answering` — what a greeter answers to any octets

What counts of all that a client sends is its first line, and 256 octets of it at most.  Once that
has come, the answer is settled, in whatever pieces it has come and whatever follows:

    the octets that count are read as a line                (`readText_of_isWhole`)
    as a request if, and only if, they ask for a greeting    (`request?_eq_some_iff`)
    piece by piece or all at once, it is one answer          (`after_reading`)

A line feed can only stand at the end of what counts, where it is trimmed away, so the reply holds
none but its own.
-/
import CertRotation.Greeter.Request
import CertRotation.Proofs.Greeter.Serving

namespace CertRotation.Greeter

open Text Net

/-! ## What counts -/

theorem firstLine_counted (sent : Bytes) : firstLine (counted sent) = counted sent := by
  rw [counted, firstLine_take, firstLine_firstLine]

/-- What counts is in what is read. -/
theorem readLine_of_isWhole {sent : Stream} (h : IsWhole sent) :
    (sent.truncate maxRequest).readLine = some (.ok (counted sent.octets)) := by
  by_cases hfull : maxRequest ≤ sent.octets.length
  · rw [Stream.truncate, if_pos hfull, Stream.readLine_closed, firstLine_take, counted]
  · have hshort : sent.octets.length ≤ maxRequest := Nat.le_of_not_le hfull
    have hall : counted sent.octets = firstLine sent.octets := by
      rw [counted, ← firstLine_take, List.take_of_length_le hshort]
    rw [Stream.truncate, if_neg hfull, hall]
    rcases h with hfeed | hlong | hclosed
    · exact Stream.readLine_of_mem hfeed
    · exact absurd hlong hfull
    · obtain ⟨octets, ending⟩ := sent
      cases hclosed
      exact Stream.readLine_closed octets

/-- The text of what counts, if it has one. -/
theorem readText_of_isWhole {sent : Stream} (h : IsWhole sent) :
    (sent.truncate maxRequest).readText =
      some (match Utf8.decode? (counted sent.octets) with
        | some text => .ok text
        | none => .error notText) := by
  rw [Stream.readText, readLine_of_isWhole h]
  rfl

/-- The answer depends on what counts alone. -/
theorem answer_congr (serverName : Option String) {s t : Stream} (hs : IsWhole s) (ht : IsWhole t)
    (hcounted : counted t.octets = counted s.octets) : answer serverName t = answer serverName s := by
  rw [answer, answer, readText_of_isWhole hs, readText_of_isWhole ht, hcounted]

/-! ## Requests -/

theorem request?_eq_some_iff {line : List Char} {g : Greeting} {name : String} :
    request? line = some (g, name) ↔
      (trimEnd line).takeWhile (· ≠ ' ') = g.verb.toList ∧
      trim ((trimEnd line).dropWhile (· ≠ ' ')) = name.toList :=
  Greeting.ofRequest?_eq_some_iff

/-- Octets that ask for a greeting are answered with it. -/
theorem answer_of_asks (serverName : Option String) {sent : Stream} (h : IsWhole sent) {g : Greeting}
    {name : String} (hasks : Asks (counted sent.octets) g name) :
    answer serverName sent = greet serverName (g, name) := by
  obtain ⟨text, htext, hrequest⟩ := hasks
  have hdecoded : Utf8.decode? (counted sent.octets) = some text := Utf8.decode?_eq_some_iff.mpr htext
  have hread := request?_eq_some_iff.mpr hrequest
  simp only [answer, readText_of_isWhole h, hdecoded, hread]

/-- Octets that ask for none get no answer, not even an orderly close. -/
theorem answer_of_not_asks (serverName : Option String) {sent : Stream} (h : IsWhole sent)
    (hasks : ∀ g name, ¬ Asks (counted sent.octets) g name) :
    answer serverName sent = ⟨[], .broken cutOff⟩ := by
  cases hdecoded : Utf8.decode? (counted sent.octets) with
  | none => simp only [answer, readText_of_isWhole h, hdecoded]
  | some text =>
      have hnone : request? text = none := by
        rw [Option.eq_none_iff_forall_ne_some]
        intro ⟨g, name⟩ hread
        exact hasks g name
          ⟨text, Utf8.decode?_eq_some_iff.mp hdecoded, request?_eq_some_iff.mp hread⟩
      simp only [answer, readText_of_isWhole h, hdecoded, hnone]

/-! ## The one line feed -/

/-- A first line has its line feed at the end, so none is left when white space is trimmed there. -/
theorem not_mem_trimEnd_of_firstLine {text : List Char}
    (h : firstLine (Utf8.encode text) = Utf8.encode text) : '\n' ∉ trimEnd text := by
  have hclean := not_mem_heard text
  rcases exists_heard text with hall | ⟨rest, hsplit⟩
  · rw [hall]
    exact fun hmem => hclean (mem_of_mem_trimEnd hmem)
  · have hnot : lineFeed ∉ Utf8.encode (heard text) := fun hmem => hclean (lineFeed_mem_encode.mp hmem)
    have hoctets : Utf8.encode text = Utf8.encode (heard text) ++ lineFeed :: Utf8.encode rest := by
      have hparts : heard text ++ '\n' :: rest = heard text ++ (['\n'] ++ rest) := rfl
      calc Utf8.encode text = Utf8.encode (heard text ++ '\n' :: rest) := by rw [← hsplit]
        _ = Utf8.encode (heard text) ++ (Utf8.encode ['\n'] ++ Utf8.encode rest) := by
          rw [hparts, Utf8.encode_append, Utf8.encode_append]
        _ = Utf8.encode (heard text) ++ lineFeed :: Utf8.encode rest := by rw [encode_lineFeed]; rfl
    rw [hoctets, firstLine_append hnot] at h
    have hnothing : Utf8.encode rest = [] := by
      have htails := List.append_cancel_left h
      exact ((List.cons.inj htails).2).symm
    have hrest : rest = [] := by
      have hdecoded := Utf8.decode?_encode rest
      rw [hnothing] at hdecoded
      exact (Option.some.inj hdecoded).symm
    rw [hsplit, hrest, trimEnd_append_blank _ (by decide)]
    exact fun hmem => hclean (mem_of_mem_trimEnd hmem)

/-- A name that is asked for holds no line feed. -/
theorem not_mem_name_of_asks {sent : Bytes} {g : Greeting} {name : String}
    (h : Asks (counted sent) g name) : '\n' ∉ name.toList := by
  obtain ⟨text, htext, -, hname⟩ := h
  have hfirst := firstLine_counted sent
  rw [htext] at hfirst
  intro hmem
  rw [← hname] at hmem
  have hline : '\n' ∈ trimEnd text := (List.dropWhile_sublist _).subset (mem_of_mem_trim hmem)
  exact not_mem_trimEnd_of_firstLine hfirst hline

/-- The name of a server is one line, and so is what stands for no name. -/
theorem not_mem_serverName {serverName : Option String}
    (h : ∀ n, serverName = some n → ServerName.isDnsName n.toList = true) :
    '\n' ∉ (serverName.getD unnamed).toList := by
  cases serverName with
  | none => decide
  | some n =>
      intro hmem
      exact absurd (ServerName.mem_of_isDnsName (h n rfl) hmem) (by decide)

/-! ## Piece by piece -/

/-- An answer is settled before the end of the octets only if all that counts has come. -/
theorem isWhole_of_settled {serverName : Option String} {received : Bytes}
    (h : (answer serverName ⟨received, .pending⟩).ending ≠ .pending) : IsWhole ⟨received, .pending⟩ := by
  by_cases hfull : maxRequest ≤ received.length
  · exact Or.inr (Or.inl hfull)
  · by_cases hfeed : lineFeed ∈ received
    · exact Or.inl hfeed
    · refine absurd ?_ h
      have hline : Stream.readLine ⟨received, .pending⟩ = none := by
        rw [Stream.readLine, if_neg hfeed]
      have hread : ((⟨received, .pending⟩ : Stream).truncate maxRequest).readText = none := by
        rw [Stream.truncate, if_neg hfull, Stream.readText, hline]
        rfl
      rw [answer, hread]

/-- What counts stays what it is when more comes. -/
theorem counted_append {received : Bytes} (h : IsWhole ⟨received, .pending⟩) (more : Bytes) :
    counted (received ++ more) = counted received := by
  rcases h with hfeed | hlong | hclosed
  · rw [counted, firstLine_append_of_mem hfeed, counted]
  · rw [counted, counted, ← firstLine_take, ← firstLine_take, List.take_append_of_le_length hlong]
  · nomatch hclosed

theorem isWhole_append {received : Bytes} (h : IsWhole ⟨received, .pending⟩) (more : Bytes)
    (e : Ending) : IsWhole ⟨received ++ more, e⟩ := by
  rcases h with hfeed | hlong | hclosed
  · exact Or.inl (List.mem_append_left more hfeed)
  · refine Or.inr (Or.inl ?_)
    rw [List.length_append]
    exact Nat.le_add_right_of_le hlong
  · nomatch hclosed

namespace Serving

open Phase

theorem after_cons (p : Phase) (a : Act) (as : List Act) : p.after (a :: as) = (p.act a).after as :=
  rfl

theorem after_answered (o : Tls.Outcome) (a : Stream) (as : List Act) :
    after (.answered o a) as = .answered o a := by
  induction as with
  | nil => rfl
  | cons _ as ih => exact ih

/-- An answer that is settled ends the connection. -/
theorem read_of_settled {o : Tls.Outcome} {session : Tls.Session} {received : Stream}
    (h : (answer session.serverName received).ending ≠ .pending) :
    Phase.read o session received = .answered o (answer session.serverName received) := by
  rw [Phase.read, if_neg h]

/-- Once all that counts has come, the connection has its answer, whatever its client does next. -/
theorem after_read_of_settled {o : Tls.Outcome} {session : Tls.Session} {received : Bytes}
    (h : (answer session.serverName ⟨received, .pending⟩).ending ≠ .pending) (as : List Act) :
    (Phase.read o session ⟨received, .pending⟩).after as =
      Phase.read o session ⟨received ++ (sentBy as).octets, (sentBy as).ending⟩ := by
  have hwhole := isWhole_of_settled h
  have hsame := answer_congr session.serverName hwhole
    (isWhole_append hwhole (sentBy as).octets (sentBy as).ending) (counted_append hwhole _)
  have hlater : (answer session.serverName
      ⟨received ++ (sentBy as).octets, (sentBy as).ending⟩).ending ≠ .pending := by
    rw [hsame]
    exact h
  rw [read_of_settled h, read_of_settled hlater, hsame, after_answered]

/-- An end settles every answer. -/
theorem settled_of_ended (serverName : Option String) (received : Bytes) {e : Ending}
    (he : e ≠ .pending) : (answer serverName ⟨received, e⟩).ending ≠ .pending := by
  intro hpending
  have hread : ((⟨received, e⟩ : Stream).truncate maxRequest).readText = none := by
    rw [answer] at hpending
    split at hpending
    · assumption
    · nomatch hpending
    · split at hpending
      · nomatch hpending
      · nomatch hpending
  have hended : ((⟨received, e⟩ : Stream).truncate maxRequest).ending ≠ .pending := by
    rw [Stream.truncate]
    split
    · exact Ending.noConfusion
    · exact he
  rw [Stream.readText, Option.map_eq_none_iff, Stream.readLine] at hread
  split at hread
  · nomatch hread
  · split at hread
    · nomatch hread
    · nomatch hread
    · rename_i hstill
      exact hended hstill

/-- A connection that reads piece by piece comes to what it would come to with all the octets at
once. -/
theorem after_reading {o : Tls.Outcome} {session : Tls.Session} (as : List Act) (received : Bytes) :
    (Phase.read o session ⟨received, .pending⟩).after as =
      Phase.read o session ⟨received ++ (sentBy as).octets, (sentBy as).ending⟩ := by
  induction as generalizing received with
  | nil =>
      rw [sentBy, List.append_nil]
      rfl
  | cons a as ih =>
      by_cases hsettled : (answer session.serverName ⟨received, .pending⟩).ending = .pending
      · -- The connection still reads, so the act goes to it.
        have hreads : Phase.read o session ⟨received, .pending⟩ = .reading o session received := by
          rw [Phase.read, if_pos hsettled]
        rw [hreads, after_cons]
        cases a with
        | sends octets =>
            rw [sentBy, ← List.append_assoc]
            exact ih (received ++ octets)
        | closes =>
            have hended := settled_of_ended session.serverName received
              (e := .closed) Ending.noConfusion
            rw [sentBy, List.append_nil, read_of_settled hended]
            show (Phase.read o session ⟨received, .closed⟩).after as = _
            rw [read_of_settled hended, after_answered]
        | breaks c =>
            have hended := settled_of_ended session.serverName received
              (e := .broken c) Ending.noConfusion
            rw [sentBy, List.append_nil, read_of_settled hended]
            show (Phase.read o session ⟨received, .broken c⟩).after as = _
            rw [read_of_settled hended, after_answered]
      · exact after_read_of_settled hsettled (a :: as)

/-- After a finished handshake a connection is ready to read. -/
theorem shake_of_session {o : Tls.Outcome} {session : Tls.Session} (h : o.server = .ok session) :
    Phase.shake o = Phase.read o session ⟨[], .pending⟩ := by
  rw [Phase.shake, h]
  rfl

/-- A greeter's answer to any octets, in any pieces, once all that counts of them has come.  If they
ask for a greeting, it is the reply for the name with its white space trimmed, and a line feed, the
only one, before an orderly close.  If they do not, it is nothing at all, and the connection breaks
off.  Whatever else has come with them, and in whatever pieces, the answer is the same. -/
theorem answered_by_what_counts {o : Tls.Outcome} {session : Tls.Session}
    (hsession : o.server = .ok session)
    (hname : ∀ n, session.serverName = some n → ServerName.isDnsName n.toList = true)
    {as : List Act} (hwhole : IsWhole (sentBy as)) :
    let p := counted (sentBy as).octets
    let reply (g : Greeting) (name : String) : Bytes :=
      Utf8.encode (g.reply name (session.serverName.getD "unknown")).toList
    ∃ a : Stream, (Phase.shake o).after as = .answered o a ∧
      a = answer session.serverName (sentBy as) ∧
      (∀ g name, Asks p g name → a = ⟨reply g name ++ [lineFeed], .closed⟩ ∧ lineFeed ∉ reply g name) ∧
      ((∀ g name, ¬ Asks p g name) → a = ⟨[], .broken cutOff⟩) ∧
      ∀ t, IsWhole t → counted t.octets = p → answer session.serverName t = a := by
  intro p reply
  have hafter : (Phase.shake o).after as = Phase.read o session (sentBy as) := by
    rw [shake_of_session hsession, after_reading, List.nil_append]
  have hfeedless (g : Greeting) (name : String) (hasks : Asks p g name) : lineFeed ∉ reply g name := by
    intro hmem
    exact Requester.not_mem_reply (not_mem_name_of_asks hasks) (not_mem_serverName hname)
      (lineFeed_mem_encode.mp hmem)
  have hsettled : (answer session.serverName (sentBy as)).ending ≠ .pending := by
    by_cases hasks : ∃ g name, Asks p g name
    · obtain ⟨g, name, hasks⟩ := hasks
      rw [answer_of_asks _ hwhole hasks]
      exact Ending.noConfusion
    · rw [answer_of_not_asks _ hwhole fun g name h => hasks ⟨g, name, h⟩]
      exact Ending.noConfusion
  refine ⟨answer session.serverName (sentBy as), ?_, rfl, ?_, ?_, ?_⟩
  · rw [hafter, read_of_settled hsettled]
  · intro g name hasks
    exact ⟨answer_of_asks _ hwhole hasks, hfeedless g name hasks⟩
  · exact answer_of_not_asks _ hwhole
  · intro t ht hcounted
    exact answer_congr _ hwhole ht hcounted

/-- A request that comes in two pieces, cut inside a character, with more behind its line feed. -/
def zoeInPieces : List Act :=
  [.sends (Utf8.encode "HELLO Zo".toList ++ [0xC3]),
    .sends (0xAB :: Utf8.encode " \t\nAGAIN Ada\n".toList)]

theorem zoeInPieces_asks : Asks (counted (sentBy zoeInPieces).octets) .hello "Zoë" :=
  ⟨"HELLO Zoë \t\n".toList, by decide, by decide, by decide⟩

theorem answered_by_what_counts_pieces :
    ∃ session, (Tls.handshake (.hardened Conversation.localhostStore Conversation.localhostRoots)
        (.hardened Conversation.localhostStore Conversation.localhostRoots) (.dns "localhost")
        1760000000).server = .ok session ∧
      (∀ n, session.serverName = some n → ServerName.isDnsName n.toList = true) ∧
      IsWhole (sentBy zoeInPieces) ∧
      ((Phase.shake (Tls.handshake (.hardened Conversation.localhostStore Conversation.localhostRoots)
        (.hardened Conversation.localhostStore Conversation.localhostRoots) (.dns "localhost")
        1760000000)).after zoeInPieces).arrivals =
        Stream.arrivals ⟨Utf8.encode "Hello Zoë (localhost)\n".toList, .closed⟩ := by
  have hholds : Conversation.localhostStore.current = some Conversation.localhostIdentity := rfl
  obtain ⟨session, hsession⟩ : ∃ session,
      (Tls.handshake (.hardened Conversation.localhostStore Conversation.localhostRoots)
        (.hardened Conversation.localhostStore Conversation.localhostRoots) (.dns "localhost")
        1760000000).server = .ok session := by
    rw [Tls.handshake_hardened]
    exact Tls.between_server_ok_iff.mpr
      ⟨_, _, hholds, hholds, Conversation.localhost_trusted.1, Conversation.localhost_trusted.2⟩
  have hsent : session.serverName = some "localhost" :=
    (Conversation.request_of_session (r := ⟨⟨"localhost", 443⟩, .dns "localhost", "", .ofSecs 10⟩)
      hsession .hello).2
  have hname (n : String) (hn : session.serverName = some n) :
      ServerName.isDnsName n.toList = true := by
    rw [hsent] at hn
    rw [← Option.some.inj hn]
    decide
  have hwhole : IsWhole (sentBy zoeInPieces) := Or.inl (by decide)
  obtain ⟨a, hafter, -, hasked, -, -⟩ := answered_by_what_counts hsession hname hwhole
  refine ⟨session, hsession, hname, hwhole, ?_⟩
  rw [hafter, (hasked .hello "Zoë" zoeInPieces_asks).1, hsent]
  rfl

end Serving
end CertRotation.Greeter
