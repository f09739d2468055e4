/-
# `Proofs.Target` — the host that is dialled and the host that is verified

Both are found in the host of a target: what is dialled in the host as it is written, what is
verified in the host without its brackets.

    no bracket at an end   ⟹  the verified host is the one that is dialled   (`destination_of_not_bracketed`)
    a bracket at an end    ⟹  the host is looked up, brackets and all        (`destination_of_bracketed`)
    looked up and unknown  ⟹  no request gets through                        (`request_of_bracketed`)

Brackets belong to no address and to no DNS name, so what is looked up then is not what is
verified; an address in brackets is verified as an address and never dialled as one.
-/
import CertRotation.Proofs.Net.ServerName
import CertRotation.Requester

namespace CertRotation

open Text Net

namespace Target

/-! ## Brackets -/

section
variable {host : List Char}

theorem dropWhile_of_head? {c : Char} (h : host.head? ≠ some c) : host.dropWhile (· == c) = host := by
  cases host with
  | nil => rfl
  | cons a host =>
      have ha : ¬ (a == c) = true := fun e => h (congrArg some (eq_of_beq e))
      exact List.dropWhile_cons_of_neg ha

/-- Nothing is dropped of a host without a bracket at an end, -/
theorem unbracket_of_not_bracketed (h : ¬ Bracketed host) : unbracket host = host := by
  have hfront : host.head? ≠ some '[' := fun e => h (Or.inl e)
  have hback : host.reverse.head? ≠ some ']' := by
    rw [List.head?_reverse]
    exact fun e => h (Or.inr e)
  rw [unbracket, dropWhile_of_head? hfront, dropWhile_of_head? hback, List.reverse_reverse]

/-- and of such a host in brackets, the brackets. -/
theorem unbracket_brackets (h : ¬ Bracketed host) : unbracket ('[' :: (host ++ [']'])) = host := by
  have hfront : (host ++ [']']).head? ≠ some '[' := by
    intro e
    cases host with
    | nil => exact absurd e (by decide)
    | cons c host => exact h (Or.inl e)
  have hback : host.reverse.head? ≠ some ']' := by
    rw [List.head?_reverse]
    exact fun e => h (Or.inr e)
  rw [unbracket, List.dropWhile_cons_of_pos rfl, dropWhile_of_head? hfront, List.reverse_append,
    List.reverse_singleton, List.singleton_append, List.dropWhile_cons_of_pos rfl,
    dropWhile_of_head? hback, List.reverse_reverse]

/-- A host with a bracket at an end is not an address, -/
theorem parse?_of_bracketed (h : Bracketed host) : IpAddress.parse? host = none := by
  rw [Option.eq_none_iff_forall_ne_some]
  intro a ha
  have hspelled := IpAddress.mem_of_parse? ha
  rcases h with h | h
  · exact absurd (hspelled _ (List.mem_of_head? h)) (by decide)
  · exact absurd (hspelled _ (List.mem_of_getLast? h)) (by decide)

/-- and not a DNS name. -/
theorem not_isDnsName_of_bracketed (h : Bracketed host) : ¬ ServerName.isDnsName host = true := by
  intro hdns
  rcases h with h | h
  · exact absurd (ServerName.mem_of_isDnsName hdns (List.mem_of_head? h)) (by decide)
  · exact absurd (ServerName.mem_of_isDnsName hdns (List.mem_of_getLast? h)) (by decide)

end

/-! ## Destinations -/

section
variable {t : Target} {n : ServerName}

/-- A host that is verified as it is written is dialled so. -/
theorem destination_of_parse? (h : ServerName.parse? t.host.toList = some n) :
    t.destination = .verified n := by
  rcases ServerName.parse?_eq_some h with ⟨rfl, hdns⟩ | ⟨a, rfl, ha⟩
  · rw [destination, ServerName.parse?_of_isDnsName hdns, Destination.verified, String.ofList_toList]
  · rw [destination, ha, Destination.verified]

theorem destination_of_not_bracketed (hname : t.serverName? = some n) (h : ¬ Bracketed t.host.toList) :
    t.destination = .verified n := by
  rw [serverName?, unbracket_of_not_bracketed h] at hname
  exact destination_of_parse? hname

theorem destination_of_bracketed (h : Bracketed t.host.toList) : t.destination = .lookUp t.host := by
  rw [destination, parse?_of_bracketed h]

/-- What is verified for a host in brackets is never the host that is looked up. -/
theorem verified_ne_of_bracketed (hname : t.serverName? = some n) (h : Bracketed t.host.toList) :
    .verified n ≠ Destination.lookUp t.host := by
  rcases ServerName.parse?_eq_some hname with ⟨rfl, hdns⟩ | ⟨a, rfl, -⟩
  · intro heq
    have hhost : t.host.toList = unbracket t.host.toList :=
      (congrArg String.toList (Destination.lookUp.inj heq).symm).trans String.toList_ofList
    rw [← hhost] at hdns
    exact not_isDnsName_of_bracketed h hdns
  · intro heq
    nomatch heq

/-- However an address is spelled: in brackets, it is verified but looked up. -/
theorem bracketed_address {s : List Char} {a : IpAddress} (h : IpAddress.parse? s = some a)
    (ht : t.host.toList = '[' :: (s ++ [']'])) :
    t.serverName? = some (.ip a) ∧ t.destination = .lookUp t.host := by
  have hplain : ¬ Bracketed s := by
    intro hb
    rw [parse?_of_bracketed hb] at h
    nomatch h
  constructor
  · rw [serverName?, ht, unbracket_brackets hplain]
    exact ServerName.parse?_of_address h
  · refine destination_of_bracketed (Or.inl ?_)
    rw [ht]
    rfl

end
end Target

/-! ## Requesters -/

namespace Requester

/-- A requester that is given no name verifies the host of its target, and a host with no bracket at
an end is the one that it dials.  A host with one is looked up as it is written, which is never what
is verified. -/
theorem dials_verified_iff {target : Target} {name : String} {timeout : Duration} {r : Requester}
    (h : new? target none name timeout = .ok r) :
    r.target = target ∧
      (r.target.destination = .verified r.serverName ↔ ¬ Target.Bracketed target.host.toList) ∧
      (Target.Bracketed target.host.toList → r.target.destination = .lookUp target.host) := by
  have hmade : r.target = target ∧ target.serverName? = some r.serverName := by
    unfold new? at h
    cases hname : target.serverName? with
    | none => simp only [hname] at h; nomatch h
    | some n =>
        simp only [hname] at h
        rw [← Except.ok.inj h]
        exact ⟨rfl, rfl⟩
  obtain ⟨htarget, hname⟩ := hmade
  rw [htarget]
  refine ⟨rfl, ⟨?_, Target.destination_of_not_bracketed hname⟩, Target.destination_of_bracketed⟩
  intro hdest hb
  rw [Target.destination_of_bracketed hb] at hdest
  exact Target.verified_ne_of_bracketed hname hb hdest.symm

/-- The address of the own host, with and without brackets around it. -/
theorem dials_verified_loopback :
    (∃ r, new? ⟨"::1", 443⟩ none "world" (.ofSecs 5) = .ok r ∧
      r.target.destination = .verified r.serverName) ∧
    ∃ r, new? ⟨"[::1]", 443⟩ none "world" (.ofSecs 5) = .ok r ∧
      r.target.destination ≠ .verified r.serverName := by
  have hplain : new? ⟨"::1", 443⟩ none "world" (.ofSecs 5) =
      .ok ⟨⟨"::1", 443⟩, .ip (.v6 #v[0, 0, 0, 0, 0, 0, 0, 1]), "world", .ofSecs 5⟩ := by decide
  have hbracketed : new? ⟨"[::1]", 443⟩ none "world" (.ofSecs 5) =
      .ok ⟨⟨"[::1]", 443⟩, .ip (.v6 #v[0, 0, 0, 0, 0, 0, 0, 1]), "world", .ofSecs 5⟩ := by decide
  constructor
  · refine ⟨_, hplain, ?_⟩
    exact (dials_verified_iff hplain).2.1.mpr (by decide)
  · refine ⟨_, hbracketed, ?_⟩
    intro hdest
    exact (dials_verified_iff hbracketed).2.1.mp hdest (by decide)

/-- The usual form of an IPv6 address and a port. -/
theorem bracketed_looked_up :
    ∃ t r, Target.parse? "[::1]:443" = some t ∧ new? t none "world" (.ofSecs 5) = .ok r ∧
      r.serverName = .ip (.v6 #v[0, 0, 0, 0, 0, 0, 0, 1]) ∧ r.target.destination = .lookUp "[::1]" := by
  refine ⟨⟨"[::1]", 443⟩, ⟨⟨"[::1]", 443⟩, .ip (.v6 #v[0, 0, 0, 0, 0, 0, 0, 1]), "world", .ofSecs 5⟩, ?_⟩
  decide

/-- No request gets through to a host in brackets whose name is not known with the brackets. -/
theorem request_of_bracketed {r : Requester} {names : Resolver} {c : IoError}
    (h : Target.Bracketed r.target.host.toList) (hunknown : names r.target.host = .error c)
    (n : Network) (g : Greeting) (p : Peer) : r.request g (r.meets n names p) = .error (.io c) := by
  have hdial : r.target.destination.dial n names = .error c := by
    rw [Target.destination_of_bracketed h, Target.Destination.dial, hunknown]
    rfl
  have hopened : r.opened? (.refusing c) = some (.refused c) := by
    have hnow : decide (0 ≤ r.timeout.nanos) = true := decide_eq_true (Nat.zero_le _)
    rw [opened?, Peer.refusing, Option.filter_some, if_pos hnow]
    rfl
  simp only [meets, hdial, request, hopened]

end Requester
end CertRotation
