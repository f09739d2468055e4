/-
# `Proofs.Net.ServerName` — names to verify

A text is a DNS name or an address and never both, so it does not matter which of them is tried
first:

    a DNS name has no colon, and its last label is not all digits     (`mem_of_isDnsName`)
    hence it is neither eight groups nor four octets                  (`parse?_of_isDnsName`)
-/
import CertRotation.Proofs.Net.Address

namespace CertRotation.Net.ServerName

open Text

section
variable {s : List Char}

/-- A DNS name holds the characters of its labels and points. -/
theorem mem_of_isDnsName (h : isDnsName s = true) {c : Char} (hc : c ∈ s) :
    c = '.' ∨ isWordChar c = true ∨ c = '-' := by
  by_cases hpoint : c = '.'
  · exact Or.inl hpoint
  obtain ⟨p, hp, hmem⟩ := exists_mem_splitAll hpoint hc
  have hne : p ≠ [] := List.ne_nil_of_mem hmem
  have hlabel : p ∈ labels s := by
    unfold labels
    by_cases hlast : (splitAll '.' s).getLast? = some []
    · obtain ⟨front, hfront⟩ := List.getLast?_eq_some_iff.mp hlast
      simp only [hlast, if_true]
      rw [hfront] at hp ⊢
      rw [List.dropLast_concat]
      exact (List.mem_append.mp hp).resolve_right fun h => hne (List.mem_singleton.mp h)
    · simp only [hlast, if_false]
      exact hp
  unfold isDnsName at h
  simp only [Bool.and_eq_true, List.all_eq_true] at h
  have hchars := h.1.2 p hlabel
  unfold isLabel at hchars
  simp only [Bool.and_eq_true, List.all_eq_true, Bool.or_eq_true, beq_iff_eq] at hchars
  exact Or.inr (hchars.1.1.2 c hmem)

/-- The last label of a DNS name holds a character that is no digit. -/
theorem exists_of_getLast?_labels (h : isDnsName s = true) {l : List Char}
    (hl : (labels s).getLast? = some l) : ∃ c ∈ l, Char.isDigit c = false := by
  unfold isDnsName at h
  simp only [Bool.and_eq_true, hl, Option.any_some, Bool.not_eq_true', List.all_eq_false] at h
  obtain ⟨c, hc, hdigit⟩ := h.2
  exact ⟨c, hc, Bool.not_eq_true _ ▸ hdigit⟩

/-- A DNS name is not a dotted address. -/
theorem dotted?_of_isDnsName (h : isDnsName s = true) : IpAddress.dotted? s = none := by
  rw [Option.eq_none_iff_forall_ne_some]
  intro o ho
  obtain ⟨a, b, c, d, hsplit, hoctets⟩ := IpAddress.pieces_of_dotted? ho
  obtain ⟨x, hx⟩ := hoctets d (by simp)
  have hne : d ≠ [] := by
    rintro rfl
    nomatch hx
  have hlast : (labels s).getLast? = some d := by
    unfold labels
    simp [hsplit, hne]
  obtain ⟨y, hy, hdigit⟩ := exists_of_getLast?_labels h hlast
  have hy' : Char.isDigit y = true := Decimal.isDigit_of_isDigit (IpAddress.mem_of_octet? hx y hy)
  rw [hy'] at hdigit
  nomatch hdigit

/-- A DNS name is not an address. -/
theorem parse?_of_isDnsName (h : isDnsName s = true) : IpAddress.parse? s = none := by
  have hcolon : ':' ∉ s := by
    intro hmem
    exact absurd (mem_of_isDnsName h hmem) (by decide)
  rw [IpAddress.parse?, dotted?_of_isDnsName h]
  show ((IpAddress.allGroups? s).bind IpAddress.ofGroups?).map _ = none
  rw [IpAddress.allGroups?_of_no_colon hcolon]
  rfl

/-- A text that spells an address is verified as that address. -/
theorem parse?_of_address {a : IpAddress} (h : IpAddress.parse? s = some a) : parse? s = some (.ip a) := by
  have hdns : ¬ isDnsName s = true := by
    intro hdns
    rw [parse?_of_isDnsName hdns] at h
    nomatch h
  rw [parse?, if_neg hdns, h]
  rfl

/-- What is verified for a text: the text as a DNS name, or the address that it spells. -/
theorem parse?_eq_some {n : ServerName} (h : parse? s = some n) :
    (n = .dns (String.ofList s) ∧ isDnsName s = true) ∨ ∃ a, n = .ip a ∧ IpAddress.parse? s = some a := by
  unfold parse? at h
  by_cases hdns : isDnsName s = true
  · rw [if_pos hdns] at h
    exact Or.inl ⟨(Option.some.inj h).symm, hdns⟩
  · rw [if_neg hdns] at h
    obtain ⟨a, ha, hn⟩ := Option.map_eq_some_iff.mp h
    exact Or.inr ⟨a, hn.symm, ha⟩

end
end CertRotation.Net.ServerName
