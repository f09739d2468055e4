/-
# `Proofs.Text.Utf8` — what is written in UTF-8 reads back

The reader looks at one lead octet and the tails that it asks for, so the law is about one
character in front of any octets, and a text follows by induction:

    decode? (encodeChar c ++ r) = (decode? r).map (c :: ·)    (`decode?_encodeChar`)
    decode? (encode s)          = some s                      (`decode?_encode`)

Octets below 128 stand for themselves only: none of them is part of a longer character.  The reader
takes the shortest form of each character and no other, so reading is writing backwards:

    decode? b = some s  ↔  b = encode s                       (`decode?_eq_some_iff`)
-/
import CertRotation.Text.Utf8

namespace CertRotation.Text.Utf8

/-! ## One character -/

/-- The numbers that characters have: below the limit and no surrogates. -/
theorem toNat_valid (c : Char) :
    c.toNat < 0xD800 ∨ (0xDFFF < c.toNat ∧ c.toNat < 0x110000) :=
  c.valid

theorem toNat_octet {n : Nat} (h : n < 256) : (UInt8.ofNat n).toNat = n := by
  rw [UInt8.toNat_ofNat']
  exact Nat.mod_eq_of_lt h

section
variable (c : Char) (r : Bytes)

theorem decode?_one (h : c.toNat < 0x80) :
    decode? (UInt8.ofNat c.toNat :: r) = (decode? r).map (c :: ·) := by
  have ha : (UInt8.ofNat c.toNat).toNat = c.toNat := toNat_octet (by omega)
  rw [decode?.eq_def]
  simp only [ha, h, if_true, Char.ofNat_toNat]

theorem decode?_two (hlow : 0x80 ≤ c.toNat) (hhigh : c.toNat < 0x800) :
    decode? (UInt8.ofNat (0xC0 + c.toNat / 64) :: UInt8.ofNat (0x80 + c.toNat % 64) :: r) =
      (decode? r).map (c :: ·) := by
  have ha : (UInt8.ofNat (0xC0 + c.toNat / 64)).toNat = 0xC0 + c.toNat / 64 :=
    toNat_octet (by omega)
  have hb : (UInt8.ofNat (0x80 + c.toNat % 64)).toNat = 0x80 + c.toNat % 64 :=
    toNat_octet (by omega)
  have hlead : ¬ 0xC0 + c.toNat / 64 < 0x80 := by omega
  have hshape : (decide (0xC2 ≤ 0xC0 + c.toNat / 64) && decide (0xC0 + c.toNat / 64 ≤ 0xDF) &&
      isTail (UInt8.ofNat (0x80 + c.toNat % 64))) = true := by
    simp only [isTail, hb, Bool.and_eq_true, decide_eq_true_eq]
    omega
  have hvalue : (0xC0 + c.toNat / 64) % 32 * 64 + (0x80 + c.toNat % 64) % 64 = c.toNat := by omega
  rw [decode?.eq_def]
  simp only [ha, hlead, hshape, if_true, if_false, tailBits, hb, hvalue, Char.ofNat_toNat]

theorem decode?_three (hlow : 0x800 ≤ c.toNat) (hhigh : c.toNat < 0x10000) :
    decode? (UInt8.ofNat (0xE0 + c.toNat / 4096) :: UInt8.ofNat (0x80 + c.toNat / 64 % 64) ::
        UInt8.ofNat (0x80 + c.toNat % 64) :: r) =
      (decode? r).map (c :: ·) := by
  have hvalid := toNat_valid c
  have ha : (UInt8.ofNat (0xE0 + c.toNat / 4096)).toNat = 0xE0 + c.toNat / 4096 :=
    toNat_octet (by omega)
  have hb : (UInt8.ofNat (0x80 + c.toNat / 64 % 64)).toNat = 0x80 + c.toNat / 64 % 64 :=
    toNat_octet (by omega)
  have hc : (UInt8.ofNat (0x80 + c.toNat % 64)).toNat = 0x80 + c.toNat % 64 :=
    toNat_octet (by omega)
  have hlead : ¬ 0xE0 + c.toNat / 4096 < 0x80 := by omega
  have hnotTwo : (decide (0xC2 ≤ 0xE0 + c.toNat / 4096) && decide (0xE0 + c.toNat / 4096 ≤ 0xDF) &&
      isTail (UInt8.ofNat (0x80 + c.toNat / 64 % 64))) = false := by
    have hover : ¬ 0xE0 + c.toNat / 4096 ≤ 0xDF := by omega
    simp only [hover, decide_false, Bool.and_false, Bool.false_and]
  -- The two lead octets at the ends of their range rule out overlong forms and surrogates.
  have hshape : (startsThree (UInt8.ofNat (0xE0 + c.toNat / 4096))
      (UInt8.ofNat (0x80 + c.toNat / 64 % 64)) &&
      isTail (UInt8.ofNat (0x80 + c.toNat % 64))) = true := by
    simp only [startsThree, isTail, ha, hb, hc, Bool.and_eq_true, Bool.or_eq_true, beq_iff_eq,
      decide_eq_true_eq]
    omega
  have hvalue : (0xE0 + c.toNat / 4096) % 16 * 4096 + (0x80 + c.toNat / 64 % 64) % 64 * 64 +
      (0x80 + c.toNat % 64) % 64 = c.toNat := by omega
  rw [decode?.eq_def]
  simp only [ha, hlead, hnotTwo, hshape, if_true, if_false, Bool.false_eq_true, tailBits, hb, hc,
    hvalue, Char.ofNat_toNat]

theorem decode?_four (hlow : 0x10000 ≤ c.toNat) :
    decode? (UInt8.ofNat (0xF0 + c.toNat / 262144) :: UInt8.ofNat (0x80 + c.toNat / 4096 % 64) ::
        UInt8.ofNat (0x80 + c.toNat / 64 % 64) :: UInt8.ofNat (0x80 + c.toNat % 64) :: r) =
      (decode? r).map (c :: ·) := by
  have hvalid := toNat_valid c
  have ha : (UInt8.ofNat (0xF0 + c.toNat / 262144)).toNat = 0xF0 + c.toNat / 262144 :=
    toNat_octet (by omega)
  have hb : (UInt8.ofNat (0x80 + c.toNat / 4096 % 64)).toNat = 0x80 + c.toNat / 4096 % 64 :=
    toNat_octet (by omega)
  have hc : (UInt8.ofNat (0x80 + c.toNat / 64 % 64)).toNat = 0x80 + c.toNat / 64 % 64 :=
    toNat_octet (by omega)
  have hd : (UInt8.ofNat (0x80 + c.toNat % 64)).toNat = 0x80 + c.toNat % 64 :=
    toNat_octet (by omega)
  have hlead : ¬ 0xF0 + c.toNat / 262144 < 0x80 := by omega
  have hnotTwo : (decide (0xC2 ≤ 0xF0 + c.toNat / 262144) &&
      decide (0xF0 + c.toNat / 262144 ≤ 0xDF) &&
      isTail (UInt8.ofNat (0x80 + c.toNat / 4096 % 64))) = false := by
    have hover : ¬ 0xF0 + c.toNat / 262144 ≤ 0xDF := by omega
    simp only [hover, decide_false, Bool.and_false, Bool.false_and]
  have hnotThree : (startsThree (UInt8.ofNat (0xF0 + c.toNat / 262144))
      (UInt8.ofNat (0x80 + c.toNat / 4096 % 64)) &&
      isTail (UInt8.ofNat (0x80 + c.toNat / 64 % 64))) = false := by
    rw [Bool.and_eq_false_iff]
    refine Or.inl ?_
    simp only [startsThree, ha, Bool.or_eq_false_iff, Bool.and_eq_false_iff, beq_eq_false_iff_ne,
      decide_eq_false_iff_not]
    omega
  have hshape : (startsFour (UInt8.ofNat (0xF0 + c.toNat / 262144))
      (UInt8.ofNat (0x80 + c.toNat / 4096 % 64)) && isTail (UInt8.ofNat (0x80 + c.toNat / 64 % 64)) &&
      isTail (UInt8.ofNat (0x80 + c.toNat % 64))) = true := by
    simp only [startsFour, isTail, ha, hb, hc, hd, Bool.and_eq_true, Bool.or_eq_true, beq_iff_eq,
      decide_eq_true_eq]
    omega
  have hvalue : (0xF0 + c.toNat / 262144) % 8 * 262144 + (0x80 + c.toNat / 4096 % 64) % 64 * 4096 +
      (0x80 + c.toNat / 64 % 64) % 64 * 64 + (0x80 + c.toNat % 64) % 64 = c.toNat := by omega
  rw [decode?.eq_def]
  simp only [ha, hlead, hnotTwo, hnotThree, hshape, if_true, if_false, Bool.false_eq_true, tailBits,
    hb, hc, hd, hvalue, Char.ofNat_toNat]

/-- A character in front of any octets is read as the character. -/
theorem decode?_encodeChar : decode? (encodeChar c ++ r) = (decode? r).map (c :: ·) := by
  unfold encodeChar
  by_cases h1 : c.toNat < 0x80
  · simp only [h1, if_true]
    exact decode?_one c r h1
  by_cases h2 : c.toNat < 0x800
  · simp only [h1, h2, if_true, if_false]
    exact decode?_two c r (Nat.not_lt.mp h1) h2
  by_cases h3 : c.toNat < 0x10000
  · simp only [h1, h2, h3, if_true, if_false]
    exact decode?_three c r (Nat.not_lt.mp h2) h3
  · simp only [h1, h2, h3, if_false]
    exact decode?_four c r (Nat.not_lt.mp h3)

end

/-! ## Texts -/

@[simp] theorem encode_nil : encode [] = [] := rfl

theorem encode_cons (c : Char) (s : List Char) : encode (c :: s) = encodeChar c ++ encode s := rfl

theorem encode_append (s t : List Char) : encode (s ++ t) = encode s ++ encode t :=
  List.flatMap_append

/-- A text in front of any octets is read as the text. -/
theorem decode?_encode_append (s : List Char) (b : Bytes) :
    decode? (encode s ++ b) = (decode? b).map (s ++ ·) := by
  induction s with
  | nil => exact Option.map_id'.symm
  | cons c s ih =>
      rw [encode_cons, List.append_assoc, decode?_encodeChar, ih, Option.map_map]
      rfl

theorem decode?_encode (s : List Char) : decode? (encode s) = some s := by
  have h := decode?_encode_append s []
  rw [List.append_nil] at h
  rw [h]
  exact congrArg some (List.append_nil s)

/-- Octets of a text at the start of those of another are those of a text that it starts with. -/
theorem prefix_of_encode_prefix {s t : List Char} (h : encode s <+: encode t) : s <+: t := by
  obtain ⟨b, hb⟩ := h
  have hread := decode?_encode t
  rw [← hb, decode?_encode_append, Option.map_eq_some_iff] at hread
  obtain ⟨r, -, hr⟩ := hread
  exact ⟨r, hr⟩

/-- An octet below 128 stands for itself and is part of no other character. -/
theorem mem_encodeChar {b : UInt8} (hb : b.toNat < 0x80) {c : Char} :
    b ∈ encodeChar c ↔ c.toNat = b.toNat := by
  have hvalid := toNat_valid c
  unfold encodeChar
  by_cases h1 : c.toNat < 0x80
  · simp only [h1, if_true, List.mem_singleton, ← UInt8.toNat_inj]
    rw [toNat_octet (by omega)]
    exact eq_comm
  have hne : c.toNat ≠ b.toNat := by omega
  -- All octets of a longer character are 128 at least.
  by_cases h2 : c.toNat < 0x800
  · simp only [h1, h2, if_true, if_false, List.mem_cons, List.not_mem_nil, or_false,
      ← UInt8.toNat_inj, hne, iff_false]
    rw [toNat_octet (by omega), toNat_octet (by omega)]
    omega
  by_cases h3 : c.toNat < 0x10000
  · simp only [h1, h2, h3, if_true, if_false, List.mem_cons, List.not_mem_nil, or_false,
      ← UInt8.toNat_inj, hne, iff_false]
    rw [toNat_octet (by omega), toNat_octet (by omega), toNat_octet (by omega)]
    omega
  · simp only [h1, h2, h3, if_false, List.mem_cons, List.not_mem_nil, or_false,
      ← UInt8.toNat_inj, hne, iff_false]
    rw [toNat_octet (by omega), toNat_octet (by omega), toNat_octet (by omega),
      toNat_octet (by omega)]
    omega

/-- An octet below 128 is in a text exactly as the character that it stands for. -/
theorem mem_encode {d : Char} (hd : d.toNat < 0x80) {s : List Char} :
    UInt8.ofNat d.toNat ∈ encode s ↔ d ∈ s := by
  have hoctet : (UInt8.ofNat d.toNat).toNat = d.toNat := toNat_octet (by omega)
  have hchar (c : Char) : UInt8.ofNat d.toNat ∈ encodeChar c ↔ c = d := by
    rw [mem_encodeChar (by omega), hoctet, Char.toNat_inj]
  rw [encode, List.mem_flatMap]
  constructor
  · rintro ⟨c, hc, hmem⟩
    rwa [(hchar c).mp hmem] at hc
  · intro h
    exact ⟨d, h, (hchar d).mpr rfl⟩

/-! ## Octets that are read -/

/-- The character of a number that a character can have. -/
theorem toNat_ofNat {n : Nat} (h : n < 0xD800 ∨ (0xDFFF < n ∧ n < 0x110000)) :
    (Char.ofNat n).toNat = n := by
  rw [Char.ofNat, dif_pos h]
  rfl

section
variable {a b c d : UInt8}

theorem ofNat_eq {n : Nat} (h : n = a.toNat) : UInt8.ofNat n = a := by
  rw [h]
  exact UInt8.ofNat_toNat

/-- A single octet is the shortest form of its character. -/
theorem encodeChar_one (ha : a.toNat < 0x80) : encodeChar (Char.ofNat a.toNat) = [a] := by
  have hnumber : (Char.ofNat a.toNat).toNat = a.toNat := toNat_ofNat (by omega)
  unfold encodeChar
  simp only [hnumber, ha, if_true, UInt8.ofNat_toNat]

theorem encodeChar_two
    (h : (decide (0xC2 ≤ a.toNat) && decide (a.toNat ≤ 0xDF) && isTail b) = true) :
    encodeChar (Char.ofNat (a.toNat % 32 * 64 + tailBits b)) = [a, b] := by
  simp only [isTail, Bool.and_eq_true, decide_eq_true_eq] at h
  obtain ⟨⟨hlow, hhigh⟩, htail⟩ := h
  unfold tailBits
  have hnumber := toNat_ofNat (n := a.toNat % 32 * 64 + b.toNat % 64) (by omega)
  have hmany : ¬ a.toNat % 32 * 64 + b.toNat % 64 < 0x80 := by omega
  have hfew : a.toNat % 32 * 64 + b.toNat % 64 < 0x800 := by omega
  have hfirst := ofNat_eq (a := a) (n := 0xC0 + (a.toNat % 32 * 64 + b.toNat % 64) / 64) (by omega)
  have hsecond := ofNat_eq (a := b) (n := 0x80 + (a.toNat % 32 * 64 + b.toNat % 64) % 64) (by omega)
  unfold encodeChar
  simp only [hnumber, hmany, hfew, if_true, if_false, hfirst, hsecond]

theorem encodeChar_three (h : (startsThree a b && isTail c) = true) :
    encodeChar (Char.ofNat (a.toNat % 16 * 4096 + tailBits b * 64 + tailBits c)) = [a, b, c] := by
  simp only [startsThree, isTail, Bool.and_eq_true, Bool.or_eq_true, beq_iff_eq,
    decide_eq_true_eq] at h
  obtain ⟨hstart, htail⟩ := h
  unfold tailBits
  generalize hn : a.toNat % 16 * 4096 + b.toNat % 64 * 64 + c.toNat % 64 = n
  have hnumber : (Char.ofNat n).toNat = n := toNat_ofNat (by omega)
  have hmany : ¬ n < 0x800 := by omega
  have hfew : n < 0x10000 := by omega
  have hmore : ¬ n < 0x80 := by omega
  have hfirst : UInt8.ofNat (0xE0 + n / 4096) = a := ofNat_eq (by omega)
  have hsecond : UInt8.ofNat (0x80 + n / 64 % 64) = b := ofNat_eq (by omega)
  have hthird : UInt8.ofNat (0x80 + n % 64) = c := ofNat_eq (by omega)
  unfold encodeChar
  simp only [hnumber, hmany, hmore, hfew, if_true, if_false, hfirst, hsecond, hthird]

theorem encodeChar_four (h : (startsFour a b && isTail c && isTail d) = true) :
    encodeChar (Char.ofNat (a.toNat % 8 * 262144 + tailBits b * 4096 + tailBits c * 64 +
      tailBits d)) = [a, b, c, d] := by
  simp only [startsFour, isTail, Bool.and_eq_true, Bool.or_eq_true, beq_iff_eq,
    decide_eq_true_eq] at h
  obtain ⟨⟨hstart, hthird⟩, hfourth⟩ := h
  unfold tailBits
  generalize hn : a.toNat % 8 * 262144 + b.toNat % 64 * 4096 + c.toNat % 64 * 64 + d.toNat % 64 = n
  have hnumber : (Char.ofNat n).toNat = n := toNat_ofNat (by omega)
  have hmany : ¬ n < 0x10000 := by omega
  have hmore : ¬ n < 0x800 := by omega
  have hmost : ¬ n < 0x80 := by omega
  have ha : UInt8.ofNat (0xF0 + n / 262144) = a := ofNat_eq (by omega)
  have hb : UInt8.ofNat (0x80 + n / 4096 % 64) = b := ofNat_eq (by omega)
  have hc : UInt8.ofNat (0x80 + n / 64 % 64) = c := ofNat_eq (by omega)
  have hd : UInt8.ofNat (0x80 + n % 64) = d := ofNat_eq (by omega)
  unfold encodeChar
  simp only [hnumber, hmany, hmore, hmost, if_false, ha, hb, hc, hd]

end

/-- What is read is written back octet by octet: no text has a second form. -/
theorem encode_of_decode? {b : Bytes} {s : List Char} (h : decode? b = some s) : encode s = b := by
  induction b using decode?.induct generalizing s with
  | case1 =>
      rw [decode?.eq_def] at h
      rw [← Option.some.inj h, encode_nil]
  | case2 a r ha ih =>
      rw [decode?.eq_def] at h
      simp only [ha, if_true] at h
      obtain ⟨t, ht, rfl⟩ := Option.map_eq_some_iff.mp h
      rw [encode_cons, encodeChar_one ha, ih ht, List.singleton_append]
  | case3 a ha =>
      rw [decode?.eq_def] at h
      simp only [ha, if_false] at h
      nomatch h
  | case4 a ha b r hab ih =>
      rw [decode?.eq_def] at h
      simp only [ha, hab, if_true, if_false] at h
      obtain ⟨t, ht, rfl⟩ := Option.map_eq_some_iff.mp h
      rw [encode_cons, encodeChar_two hab, ih ht]
      rfl
  | case5 a ha b hab =>
      rw [decode?.eq_def] at h
      simp only [ha, hab, if_false] at h
      nomatch h
  | case6 a ha b hab c r habc ih =>
      rw [decode?.eq_def] at h
      simp only [ha, hab, habc, if_true, if_false] at h
      obtain ⟨t, ht, rfl⟩ := Option.map_eq_some_iff.mp h
      rw [encode_cons, encodeChar_three habc, ih ht]
      rfl
  | case7 a ha b hab c habc =>
      rw [decode?.eq_def] at h
      simp only [ha, hab, habc, if_false] at h
      nomatch h
  | case8 a ha b hab c habc d r habcd ih =>
      rw [decode?.eq_def] at h
      simp only [ha, hab, habc, habcd, if_true, if_false] at h
      obtain ⟨t, ht, rfl⟩ := Option.map_eq_some_iff.mp h
      rw [encode_cons, encodeChar_four habcd, ih ht]
      rfl
  | case9 a ha b hab c habc d r habcd =>
      rw [decode?.eq_def] at h
      simp only [ha, hab, habc, habcd, if_false] at h
      nomatch h

/-- The octets that are read as a text are its octets and no others. -/
theorem decode?_eq_some_iff {b : Bytes} {s : List Char} : decode? b = some s ↔ b = encode s := by
  constructor
  · intro h
    exact (encode_of_decode? h).symm
  · rintro rfl
    exact decode?_encode s

end CertRotation.Text.Utf8
