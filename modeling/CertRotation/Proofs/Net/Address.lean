/-
# `Proofs.Net.Address` — how addresses are spelled

An address is spelled with hexadecimal digits, points and colons, however its groups are shortened:

    octets     digits                      (`mem_of_octet?`)
    dotted     octets and points           (`mem_of_dotted?`)
    groups     hexadecimal digits          (`mem_of_group?`)
    address    groups and colons, or a dotted address at the end   (`mem_of_parse?`)

So a text in brackets is not an address, and a DNS name is not either: it has no colon, and its last
label is no octet.
-/
import CertRotation.Net.ServerName
import CertRotation.Proofs.Text.Blank
import CertRotation.Proofs.Text.Decimal

namespace CertRotation.Net.IpAddress

open Text

/-- The characters that an address is spelled with. -/
def Spelled (c : Char) : Prop :=
  (Decimal.hexDigit? c).isSome = true ∨ c = '.' ∨ c = ':'

instance (c : Char) : Decidable (Spelled c) :=
  inferInstanceAs (Decidable (_ ∨ _))

section
variable {s : List Char}

/-! ## Dotted addresses -/

theorem mem_of_octet? {o : UInt8} (h : octet? s = some o) : ∀ c ∈ s, Decimal.isDigit c = true := by
  unfold octet? at h
  split at h
  · nomatch h
  · intro c hc
    rw [List.mem_singleton.mp hc]
    decide
  · nomatch h
  · split at h
    · obtain ⟨n, hn, -⟩ := Option.map_eq_some_iff.mp h
      exact Decimal.isDigit_of_upTo? hn
    · nomatch h

/-- The pieces of a dotted address. -/
theorem pieces_of_dotted? {o : Vector UInt8 4} (h : dotted? s = some o) :
    ∃ a b c d, splitAll '.' s = [a, b, c, d] ∧
      ∀ p ∈ [a, b, c, d], ∃ x, octet? p = some x := by
  unfold dotted? at h
  split at h
  · rename_i a b c d hsplit
    split at h
    · rename_i w x y z ha hb hc hd
      refine ⟨a, b, c, d, hsplit, ?_⟩
      simp [ha, hb, hc, hd]
    · nomatch h
  · nomatch h

theorem mem_of_dotted? {o : Vector UInt8 4} (h : dotted? s = some o) :
    ∀ c ∈ s, Decimal.isDigit c = true ∨ c = '.' := by
  obtain ⟨a, b, c, d, hsplit, hoctets⟩ := pieces_of_dotted? h
  intro x hx
  by_cases hpoint : x = '.'
  · exact Or.inr hpoint
  · obtain ⟨p, hp, hmem⟩ := exists_mem_splitAll hpoint hx
    rw [hsplit] at hp
    obtain ⟨y, hy⟩ := hoctets p hp
    exact Or.inl (mem_of_octet? hy x hmem)

theorem spelled_of_dotted? {o : Vector UInt8 4} (h : dotted? s = some o) : ∀ c ∈ s, Spelled c := by
  intro c hc
  rcases mem_of_dotted? h c hc with hdigit | hpoint
  · exact Or.inl (Decimal.hexDigit?_isSome_of_isDigit hdigit)
  · exact Or.inr (Or.inl hpoint)

/-! ## Groups -/

theorem mem_of_readHexOnto {acc n : Nat} (h : readHexOnto acc s = some n) :
    ∀ c ∈ s, (Decimal.hexDigit? c).isSome = true := by
  induction s generalizing acc with
  | nil => exact fun c hc => absurd hc List.not_mem_nil
  | cons a s ih =>
      cases ha : Decimal.hexDigit? a with
      | none => simp only [readHexOnto, ha] at h; cases h
      | some d =>
          simp only [readHexOnto, ha] at h
          intro c hc
          rcases List.mem_cons.mp hc with rfl | hc
          · rw [ha]
            rfl
          · exact ih h c hc

theorem mem_of_group? {g : UInt16} (h : group? s = some g) :
    ∀ c ∈ s, (Decimal.hexDigit? c).isSome = true := by
  unfold group? at h
  split at h
  · nomatch h
  · obtain ⟨n, hn, -⟩ := Option.map_eq_some_iff.mp h
    exact mem_of_readHexOnto hn

theorem spelled_of_hexGroups? {ps : List (List Char)} {gs : List UInt16} (h : hexGroups? ps = some gs) :
    ∀ p ∈ ps, ∀ c ∈ p, Spelled c := by
  induction ps generalizing gs with
  | nil => exact fun p hp => absurd hp List.not_mem_nil
  | cons q ps ih =>
      rw [hexGroups?] at h
      split at h
      · rename_i g gs' hq hps
        intro p hp c hc
        rcases List.mem_cons.mp hp with rfl | hp
        · exact Or.inl (mem_of_group? hq c hc)
        · exact ih hps p hp c hc
      · nomatch h

theorem spelled_of_groups? {ps : List (List Char)} {gs : List UInt16} (h : groups? ps = some gs) :
    ∀ p ∈ ps, ∀ c ∈ p, Spelled c := by
  induction ps generalizing gs with
  | nil => exact fun p hp => absurd hp List.not_mem_nil
  | cons q ps ih =>
      cases ps with
      | nil =>
          intro p hp c hc
          rw [List.mem_singleton.mp hp] at hc
          cases hq : group? q with
          | some g => exact Or.inl (mem_of_group? hq c hc)
          | none =>
              -- Only the last piece may be a dotted address.
              simp only [groups?, hq] at h
              obtain ⟨o, ho, -⟩ := Option.map_eq_some_iff.mp h
              exact spelled_of_dotted? ho c hc
      | cons r ps =>
          rw [groups?] at h
          · split at h
            · rename_i g gs' hq hps
              intro p hp c hc
              rcases List.mem_cons.mp hp with rfl | hp
              · exact Or.inl (mem_of_group? hq c hc)
              · exact ih hps p hp c hc
            · nomatch h
          · exact List.cons_ne_nil r ps

/-! ## Addresses -/

/-- A text is what is before and behind its double colon. -/
theorem eq_of_cutDouble {l r : List Char} (h : cutDouble s = some (l, r)) :
    s = l ++ ':' :: ':' :: r := by
  induction s using cutDouble.induct generalizing l with
  | case1 r' =>
      rw [cutDouble] at h
      cases h
      rfl
  | case2 => nomatch h
  | case3 c s hne ih =>
      rw [cutDouble] at h
      · obtain ⟨⟨l', r'⟩, hcut, heq⟩ := Option.map_eq_some_iff.mp h
        cases heq
        rw [ih hcut]
        rfl
      · exact hne

/-- Pieces between colons, put together of spelled characters. -/
theorem spelled_of_splitAll (h : ∀ p ∈ splitAll ':' s, ∀ c ∈ p, Spelled c) : ∀ c ∈ s, Spelled c := by
  intro c hc
  by_cases hcolon : c = ':'
  · exact Or.inr (Or.inr hcolon)
  · obtain ⟨p, hp, hmem⟩ := exists_mem_splitAll hcolon hc
    exact h p hp c hmem

theorem spelled_of_pieces (h : ∀ p ∈ pieces s, ∀ c ∈ p, Spelled c) : ∀ c ∈ s, Spelled c := by
  cases s with
  | nil => exact fun c hc => absurd hc List.not_mem_nil
  | cons a s => exact spelled_of_splitAll h

theorem spelled_of_allGroups? {gs : List UInt16} (h : allGroups? s = some gs) : ∀ c ∈ s, Spelled c := by
  unfold allGroups? at h
  split at h
  · exact spelled_of_splitAll (spelled_of_groups? h)
  · rename_i l r hcut
    split at h
    · rename_i gl gr hl hr
      have hleft := spelled_of_pieces (spelled_of_hexGroups? hl)
      have hright := spelled_of_pieces (spelled_of_groups? hr)
      intro c hc
      rw [eq_of_cutDouble hcut] at hc
      rcases List.mem_append.mp hc with hc | hc
      · exact hleft c hc
      · rcases List.mem_cons.mp hc with rfl | hc
        · exact Or.inr (Or.inr rfl)
        · rcases List.mem_cons.mp hc with rfl | hc
          · exact Or.inr (Or.inr rfl)
          · exact hright c hc
    · nomatch h

/-- An address is spelled with hexadecimal digits, points and colons. -/
theorem mem_of_parse? {a : IpAddress} (h : parse? s = some a) : ∀ c ∈ s, Spelled c := by
  unfold parse? at h
  split at h
  · rename_i o ho
    exact spelled_of_dotted? ho
  · obtain ⟨v, hv, -⟩ := Option.map_eq_some_iff.mp h
    obtain ⟨gs, hgs, -⟩ := Option.bind_eq_some_iff.mp hv
    exact spelled_of_allGroups? hgs

/-- A text without a colon is not eight groups. -/
theorem allGroups?_of_no_colon (h : ':' ∉ s) : (allGroups? s).bind ofGroups? = none := by
  have hcut : cutDouble s = none := by
    rw [Option.eq_none_iff_forall_ne_some]
    rintro ⟨l, r⟩ hcut
    rw [eq_of_cutDouble hcut] at h
    exact h (List.mem_append_right _ List.mem_cons_self)
  rw [allGroups?, hcut, splitAll_of_not_mem h]
  show (groups? [s]).bind ofGroups? = none
  rw [groups?]
  cases group? s with
  | some g => rfl
  | none =>
      show ((dotted? s).map _).bind ofGroups? = none
      cases dotted? s with
      | none => rfl
      | some o => rfl

end
end CertRotation.Net.IpAddress
