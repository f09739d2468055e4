/-
# `Proofs.Asn1.Time` — times of both forms read back

    t valid, form.Covers t.year  →  loose? form (form.write t) = some t     (`loose?_write`)
    fields? form y f content = some t  →  t valid                           (`isValid_of_fields?`)

The short form keeps two digits of the year, and the pivot finds the century again (`expandYear_mod`).
-/
import CertRotation.Asn1.WrittenTime
import CertRotation.Proofs.Calendar.Count
import CertRotation.Proofs.Text.Decimal
import CertRotation.Proofs.Text.Utf8

namespace CertRotation.Asn1.Time

open Text Decimal

/-! ## Octets and characters -/

theorem chars_octets {s : List Char} (h : ∀ c ∈ s, c.toNat < 128) : chars (octets s) = s := by
  induction s with
  | nil => rfl
  | cons c s ih =>
      obtain ⟨hc, hs⟩ := List.forall_mem_cons.mp h
      have hback : Char.ofNat (UInt8.ofNat c.toNat).toNat = c := by
        rw [Utf8.toNat_octet (Nat.lt_trans hc (by decide)), Char.ofNat_toNat]
      exact congrArg₂ List.cons hback (ih hs)

section
variable {form : Form} {t : CalendarTime}

theorem spells_writeYear (form : Form) (y : Int) :
    Spells (form.writeYear y) (y.toNat % 10 ^ form.yearDigits) :=
  spells_padded _ _

theorem length_writeYear (form : Form) (y : Int) : (form.writeYear y).length = form.yearDigits := by
  have hpos : 0 < form.yearDigits := by
    cases form <;> decide
  exact length_padded hpos (Nat.mod_lt _ (Nat.pow_pos (Nat.succ_pos 9)))

/-- The pivot gives the year back. -/
theorem expandYear_mod {y : Int} (h : form.Covers y) :
    form.expandYear (y.toNat % 10 ^ form.yearDigits : Nat) = y := by
  cases form with
  | utc =>
      obtain ⟨h1, h2⟩ := h
      have hdigits : ((y.toNat % 10 ^ Form.utc.yearDigits : Nat) : Int) = y % 100 := by
        change ((y.toNat % 100 : Nat) : Int) = y % 100
        omega
      rw [hdigits, Form.expandYear]
      split <;> omega
  | generalized =>
      obtain ⟨h1, h2⟩ := h
      change ((y.toNat % 10000 : Nat) : Int) = y
      omega

theorem chars_write (form : Form) (t : CalendarTime) :
    chars (form.write t) = form.writeYear t.year
      ++ ([t.month, t.day, t.hour, t.minute, t.second].flatMap (padded 2) ++ ['Z']) := by
  rw [← List.append_assoc]
  refine chars_octets ?_
  intro c hc
  rcases List.mem_append.mp hc with hc | hc
  · rcases List.mem_append.mp hc with hc | hc
    · exact (spells_writeYear form t.year).isAscii c hc
    · obtain ⟨n, -, hc⟩ := List.mem_flatMap.mp hc
      exact (spells_padded 2 n).isAscii c hc
  · rw [List.mem_singleton.mp hc]
    decide

/-! ## Fields by position -/

theorem pairAt_append {p : List Char} {k : Nat} (hp : p.length = k) (r : List Char) (i : Nat) :
    pairAt (p ++ r) (k + i) = pairAt r i := by
  rw [pairAt, ← hp, List.drop_append, List.drop_eq_nil_of_le (Nat.le_add_right _ i),
    List.nil_append, Nat.add_sub_cancel_left, pairAt]

/-- Of fields of two digits each, the one with a number stands at twice its number. -/
theorem pairAt_flatMap {ns : List Nat} (h : ∀ n ∈ ns, n < 100) (r : List Char) {i n : Nat}
    (hn : ns[i]? = some n) : pairAt (ns.flatMap (padded 2) ++ r) (2 * i) = padded 2 n := by
  induction ns generalizing i with
  | nil => cases hn
  | cons m ns ih =>
      obtain ⟨hm, hns⟩ := List.forall_mem_cons.mp h
      have hlength : (padded 2 m).length = 2 := length_padded (Nat.succ_pos 1) hm
      rw [List.flatMap_cons, List.append_assoc]
      cases i with
      | zero =>
          rw [← Option.some.inj hn]
          exact List.take_left' hlength
      | succ i =>
          rw [Nat.mul_succ, Nat.add_comm, pairAt_append hlength]
          exact ih hns hn

theorem length_flatMap_padded {ns : List Nat} (h : ∀ n ∈ ns, n < 100) :
    (ns.flatMap (padded 2)).length = 2 * ns.length := by
  induction ns with
  | nil => rfl
  | cons m ns ih =>
      obtain ⟨hm, hns⟩ := List.forall_mem_cons.mp h
      rw [List.flatMap_cons, List.length_append, ih hns, length_padded (Nat.succ_pos 1) hm,
        List.length_cons, Nat.mul_succ, Nat.add_comm]

/-- A written time is read by any reader of its year and of fields of two digits. -/
theorem fields?_write {year? : List Char → Option Int} {field? : List Char → Option Nat} {y : Int}
    (hvalid : t.isValid = true) (hyear : year? (form.writeYear t.year) = some y)
    (hexpand : form.expandYear y = t.year) (hfield : ∀ n < 100, field? (padded 2 n) = some n) :
    fields? form year? field? (form.write t) = some t := by
  have hlt := CalendarTime.fields_lt hvalid
  have hy := length_writeYear form t.year
  have htext := chars_write form t
  obtain ⟨s, hs⟩ : ∃ s, chars (form.write t) = s := ⟨_, rfl⟩
  rw [hs] at htext
  have hlength : s.length = form.yearDigits + 11 := by
    rw [htext, List.length_append, List.length_append, hy, length_flatMap_padded hlt]
    rfl
  have hlast : s.getLast? = some 'Z' := by
    rw [htext, ← List.append_assoc]
    exact List.getLast?_concat
  have hdigits : s.take form.yearDigits = form.writeYear t.year := by
    rw [htext]
    exact List.take_left' hy
  have hat {i n : Nat} (hn : [t.month, t.day, t.hour, t.minute, t.second][i]? = some n) :
      field? (pairAt s (form.yearDigits + 2 * i)) = some n := by
    rw [htext, pairAt_append hy, pairAt_flatMap hlt _ hn]
    exact hfield n (hlt n (List.mem_of_getElem? hn))
  -- The fields are taken at fixed places; these are twice their numbers behind the year.
  have hmonth : field? (pairAt s form.yearDigits) = some t.month := @hat 0 _ rfl
  have hday : field? (pairAt s (form.yearDigits + 2)) = some t.day := @hat 1 _ rfl
  have hhour : field? (pairAt s (form.yearDigits + 4)) = some t.hour := @hat 2 _ rfl
  have hminute : field? (pairAt s (form.yearDigits + 6)) = some t.minute := @hat 3 _ rfl
  have hsecond : field? (pairAt s (form.yearDigits + 8)) = some t.second := @hat 4 _ rfl
  simp only [fields?, hs, hlength, hlast, hdigits, hyear, hmonth, hday, hhour, hminute, hsecond,
    hexpand, hvalid, ne_eq, not_true_eq_false, or_self, if_false, if_true]

/-- Digits alone are read without a sign. -/
theorem signed?_of_spells {s : List Char} {n : Nat} (h : Spells s n) :
    signed? s = some (n : Int) := by
  unfold signed?
  split
  · exact absurd List.mem_cons_self (h.not_mem (by decide))
  · exact absurd List.mem_cons_self (h.not_mem (by decide))
  · rw [digits?_eq_some_iff.mpr h]
    rfl

/-- Either form gives the time back that it writes. -/
theorem loose?_write (hvalid : t.isValid = true) (hcovers : form.Covers t.year) :
    loose? form (form.write t) = some t := by
  refine fields?_write hvalid ?_ (expandYear_mod hcovers) ?_
  · exact signed?_of_spells (spells_writeYear form t.year)
  · intro n hn
    exact unsigned?_eq_some_iff.mpr
      ⟨[], padded 2 n, rfl, Or.inl rfl, spells_padded 2 n, Nat.le_of_lt_succ hn⟩

/-- What is read is a date and a time of day. -/
theorem isValid_of_fields? {year? : List Char → Option Int} {field? : List Char → Option Nat}
    {content : Bytes} (h : fields? form year? field? content = some t) : t.isValid = true := by
  unfold fields? at h
  dsimp only at h
  split at h
  · cases h
  · split at h
    · split at h
      · rename_i hvalid
        rw [← Option.some.inj h]
        exact hvalid
      · cases h
    · cases h

theorem ofTag?_tag (form : Form) : Form.ofTag? form.tag = some form := by
  cases form with
  | utc => rfl
  | generalized => rfl

end

end CertRotation.Asn1.Time
