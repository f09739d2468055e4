/-
# `Proofs.Text.Quoted` — a quoted text reads back, and all of it shows

A character is written in one of three ways (`escape_cases`), and each of them is read as that
character, whatever comes behind it:

    a character behind a backslash   ⟶  the character that it means       (`readOn?_unescape`)
    a character by its number        ⟶  the character                     (`readOn?_byNumber`)
    a quoted text                    ⟶  the text, and what is behind it   (`read?_encode`)

So nothing in a text can be taken for its closing quote.  What is written has a glyph, even where the
text has none (`isPrintable_of_mem_encode`).
-/
import CertRotation.Proofs.Text.Decimal
import CertRotation.Text.Quoted.Reading

namespace CertRotation.Text

/-! ## Printable characters -/

theorem isPrintable_of_ascii {c : Char} (h : 0x20 ≤ c.toNat ∧ c.toNat < 0x7F) :
    isPrintable c = true := by
  simp only [isPrintable, h, decide_true, Bool.and_self, Bool.true_or]

namespace Decimal

theorem hexDigit?_hexChar : ∀ d < 16, hexDigit? (hexChar d) = some d := by
  decide

theorem isPrintable_hexChar : ∀ d < 16, isPrintable (hexChar d) = true := by
  decide

theorem isPrintable_of_isDigit {c : Char} (h : isDigit c = true) : isPrintable c = true := by
  obtain ⟨hzero, hnine⟩ := isDigit_iff.mp h
  exact isPrintable_of_ascii
    ⟨Nat.le_trans (by decide) hzero, Nat.lt_of_le_of_lt hnine (by decide)⟩

theorem isPrintable_of_mem_writeHex {n : Nat} {c : Char} (h : c ∈ writeHex n) :
    isPrintable c = true := by
  induction n using writeHex.induct with
  | case1 n hn =>
      rw [writeHex, if_pos hn, List.mem_singleton] at h
      rw [h]
      exact isPrintable_hexChar n hn
  | case2 n hn ih =>
      rw [writeHex, if_neg hn, List.mem_append, List.mem_singleton] at h
      rcases h with h | rfl
      · exact ih h
      · exact isPrintable_hexChar _ (Nat.mod_lt n (by decide))

end Decimal

namespace Quoted

/-! ## What stands for a character -/

theorem mem_of_unescape? {c d : Char} (h : unescape? d = some c) :
    d ∈ ['0', 't', 'r', 'n', '"', '\\'] := by
  by_contra hd
  simp only [List.mem_cons, List.not_mem_nil, or_false, not_or] at hd
  obtain ⟨hnul, htab, hreturn, hfeed, hquote, hbackslash⟩ := hd
  rw [unescape?, if_neg hnul, if_neg htab, if_neg hreturn, if_neg hfeed, if_neg hquote,
    if_neg hbackslash] at h
  cases h

/-- A character is written behind a backslash, by its number, or as it is if it can be taken for no
mark and has a glyph. -/
theorem escape_cases (c : Char) :
    (∃ d, escape c = ['\\', d] ∧ unescape? d = some c) ∨ escape c = byNumber c ∨
      (escape c = [c] ∧ c ≠ '"' ∧ c ≠ '\\' ∧ isPrintable c = true) := by
  unfold escape
  by_cases hnul : c = '\x00'
  · subst hnul
    exact Or.inl ⟨'0', rfl, rfl⟩
  by_cases htab : c = '\t'
  · subst htab
    exact Or.inl ⟨'t', rfl, rfl⟩
  by_cases hreturn : c = '\r'
  · subst hreturn
    exact Or.inl ⟨'r', rfl, rfl⟩
  by_cases hfeed : c = '\n'
  · subst hfeed
    exact Or.inl ⟨'n', rfl, rfl⟩
  by_cases hquote : c = '"'
  · subst hquote
    exact Or.inl ⟨'"', rfl, rfl⟩
  by_cases hbackslash : c = '\\'
  · subst hbackslash
    exact Or.inl ⟨'\\', rfl, rfl⟩
  rw [if_neg hnul, if_neg htab, if_neg hreturn, if_neg hfeed, if_neg hquote, if_neg hbackslash]
  by_cases hnumber : (isExtender c || !isPrintable c) = true
  · exact Or.inr (Or.inl (if_pos hnumber))
  · refine Or.inr (Or.inr ⟨if_neg hnumber, hquote, hbackslash, ?_⟩)
    simp only [Bool.or_eq_true, Bool.not_eq_true', not_or, Bool.not_eq_false] at hnumber
    exact hnumber.2

/-! ## Reading -/

/-- A hexadecimal digit is taken behind the digits before it. -/
theorem readOn?_hexChar (n : Nat) {d : Nat} (hd : d < 16) (r : List Char) :
    readOn? (.digits n) (Decimal.hexChar d :: r) = readOn? (.digits (n * 16 + d)) r := by
  have hclose : ∀ d < 16, Decimal.hexChar d ≠ '\x7d' := by decide
  rw [readOn?, if_neg (hclose d hd), Decimal.hexDigit?_hexChar d hd]

theorem readOn?_writeHex (n : Nat) (r : List Char) :
    readOn? (.digits 0) (Decimal.writeHex n ++ r) = readOn? (.digits n) r := by
  induction n using Decimal.writeHex.induct generalizing r with
  | case1 n hn =>
      rw [Decimal.writeHex, if_pos hn, List.singleton_append, readOn?_hexChar 0 hn, Nat.zero_mul,
        Nat.zero_add]
  | case2 n hn ih =>
      rw [Decimal.writeHex, if_neg hn, List.append_assoc, ih, List.singleton_append,
        readOn?_hexChar _ (Nat.mod_lt n (by decide)), Nat.div_add_mod']

theorem readOn?_byNumber (c : Char) (r : List Char) :
    readOn? .nothing (byNumber c ++ r) = (readOn? .nothing r).map fun (s, r) => (c :: s, r) := by
  have hopen : byNumber c ++ r =
      '\\' :: 'u' :: '\x7b' :: (Decimal.writeHex c.toNat ++ '\x7d' :: r) := by
    simp only [byNumber, List.append_assoc, List.cons_append, List.nil_append]
  have hmark (s : List Char) : readOn? .nothing ('\\' :: 'u' :: '\x7b' :: s) = readOn? (.digits 0) s :=
    rfl
  rw [hopen, hmark, readOn?_writeHex, readOn?, if_pos rfl, Char.ofNat_toNat]

theorem readOn?_unescape {c d : Char} (h : unescape? d = some c) (r : List Char) :
    readOn? .nothing ('\\' :: d :: r) = (readOn? .nothing r).map fun (s, r) => (c :: s, r) := by
  -- The letter that announces a number means no character.
  have hd : d ≠ 'u' := by
    rintro rfl
    cases h
  have hbackslash : readOn? .nothing ('\\' :: d :: r) = readOn? .backslash (d :: r) := rfl
  rw [hbackslash, readOn?, if_neg hd, h]

/-- What stands for a character is read as the character. -/
theorem readOn?_escape (c : Char) (r : List Char) :
    readOn? .nothing (escape c ++ r) = (readOn? .nothing r).map fun (s, r) => (c :: s, r) := by
  rcases escape_cases c with ⟨d, hescape, hd⟩ | hescape | ⟨hescape, hquote, hbackslash, -⟩
  · rw [hescape]
    exact readOn?_unescape hd r
  · rw [hescape, readOn?_byNumber]
  · rw [hescape, List.singleton_append, readOn?, if_neg hquote, if_neg hbackslash]

theorem readOn?_flatMap_escape (s r : List Char) :
    readOn? .nothing (s.flatMap escape ++ '"' :: r) = some (s, r) := by
  induction s with
  | nil => rfl
  | cons c s ih =>
      rw [List.flatMap_cons, List.append_assoc, readOn?_escape, ih]
      rfl

theorem read?_encode (s r : List Char) : read? (encode s ++ r) = some (s, r) := by
  have hopen : encode s ++ r = '"' :: (s.flatMap escape ++ '"' :: r) := by
    rw [encode, List.append_assoc, List.cons_append, List.singleton_append]
  rw [hopen, read?, if_pos rfl, readOn?_flatMap_escape]

/-! ## Showing -/

theorem isPrintable_of_mem_byNumber {c d : Char} (h : d ∈ byNumber c) : isPrintable d = true := by
  rw [byNumber, List.mem_append, List.mem_append, List.mem_singleton] at h
  rcases h with (h | h) | rfl
  · have hopen : ['\\', 'u', '\x7b'].all isPrintable = true := by decide
    exact List.all_eq_true.mp hopen d h
  · exact Decimal.isPrintable_of_mem_writeHex h
  · decide

/-- A character without a glyph is written by characters that have one. -/
theorem isPrintable_of_mem_escape {c d : Char} (h : d ∈ escape c) : isPrintable d = true := by
  rcases escape_cases c with ⟨e, hescape, he⟩ | hescape | ⟨hescape, -, -, hc⟩
  · have hmarks : ['\\', '0', 't', 'r', 'n', '"', '\\'].all isPrintable = true := by decide
    rw [hescape, List.mem_cons, List.mem_singleton] at h
    refine List.all_eq_true.mp hmarks d ?_
    rcases h with rfl | rfl
    · exact List.mem_cons_self
    · exact List.mem_cons_of_mem _ (mem_of_unescape? he)
  · exact isPrintable_of_mem_byNumber (hescape ▸ h)
  · rw [hescape, List.mem_singleton] at h
    rw [h]
    exact hc

theorem isPrintable_of_mem_encode {s : List Char} {c : Char} (h : c ∈ encode s) :
    isPrintable c = true := by
  rw [encode, List.mem_append, List.mem_cons, List.mem_flatMap, List.mem_singleton] at h
  rcases h with (rfl | ⟨d, -, hc⟩) | rfl
  · decide
  · exact isPrintable_of_mem_escape hc
  · decide

end Quoted
end CertRotation.Text
