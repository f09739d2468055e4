/-
# `Proofs.Text.Decimal` — what decimal digits spell

The readers go over the digits with a carry; what they come to is the number that the digits spell:

    readOnto acc s  = some n   ↔  s holds digits only, and n is acc with s behind it   (`readOnto_eq_some_iff`)
    digits? s       = some n   ↔  s spells n                                           (`digits?_eq_some_iff`)
    unsigned? l s   = some n   ↔  s spells n, perhaps behind a plus sign, and n ≤ l    (`unsigned?_eq_some_iff`)

Zeros in front add nothing, so numbers have many spellings, a padded one among them
(`spells_padded`, `length_padded`).
-/
import Mathlib.Data.Nat.Digits.Defs
import CertRotation.Text.Decimal

namespace CertRotation.Text.Decimal

/-! ## Digits -/

section
variable {c : Char} {s : List Char}

/-- The value of a digit is how far it stands behind zero. -/
theorem digit?_eq_some_iff {d : Nat} :
    digit? c = some d ↔ ('0' ≤ c ∧ c ≤ '9') ∧ d = c.toNat - '0'.toNat := by
  unfold digit?
  by_cases hc : '0' ≤ c ∧ c ≤ '9'
  · rw [if_pos hc, Option.some.injEq]
    exact ⟨fun h => ⟨hc, h.symm⟩, fun h => h.2.symm⟩
  · rw [if_neg hc]
    constructor
    · intro h
      cases h
    · intro h
      exact absurd h.1 hc

theorem isDigit_iff : isDigit c = true ↔ '0' ≤ c ∧ c ≤ '9' := by
  rw [isDigit, Option.isSome_iff_exists]
  constructor
  · rintro ⟨d, hd⟩
    exact (digit?_eq_some_iff.mp hd).1
  · intro hc
    exact ⟨_, digit?_eq_some_iff.mpr ⟨hc, rfl⟩⟩

theorem isDigit_of_isDigit (h : isDigit c = true) : Char.isDigit c = true := by
  have hc := isDigit_iff.mp h
  rw [Char.isDigit, Bool.and_eq_true]
  exact ⟨decide_eq_true hc.1, decide_eq_true hc.2⟩

theorem hexDigit?_isSome_of_isDigit (h : isDigit c = true) : (hexDigit? c).isSome = true := by
  rw [hexDigit?, if_pos (isDigit_iff.mp h)]
  rfl

/-! ## Numbers that digits spell -/

/-- The number that a row of digits stands for, the most significant first. -/
def value (s : List Char) : Nat :=
  Nat.ofDigits 10 (s.reverse.map fun c => c.toNat - '0'.toNat)

/-- A text spells a number: it holds digits only, one at least, and they stand for the number. -/
def Spells (s : List Char) (n : Nat) : Prop :=
  s ≠ [] ∧ (∀ c ∈ s, '0' ≤ c ∧ c ≤ '9') ∧ value s = n

theorem value_nil : value [] = 0 := rfl

theorem value_cons (c : Char) (s : List Char) :
    value (c :: s) = (c.toNat - '0'.toNat) * 10 ^ s.length + value s := by
  unfold value
  rw [List.map_reverse, List.map_cons, Nat.ofDigits_reverse_cons, List.length_map,
    ← List.map_reverse, Nat.add_comm, Nat.mul_comm]

/-- The carry stands in front of the digits that are still to be read. -/
theorem readOnto_eq_some_iff {acc n : Nat} :
    readOnto acc s = some n ↔
      (∀ c ∈ s, '0' ≤ c ∧ c ≤ '9') ∧ n = acc * 10 ^ s.length + value s := by
  induction s generalizing acc with
  | nil =>
      rw [readOnto, Option.some.injEq, List.length_nil, pow_zero, mul_one, value_nil, add_zero]
      exact ⟨fun h => ⟨fun c hc => absurd hc List.not_mem_nil, h.symm⟩, fun h => h.2.symm⟩
  | cons c s ih =>
      rw [List.forall_mem_cons, List.length_cons, value_cons]
      cases hc : digit? c with
      | none =>
          simp only [readOnto, hc]
          constructor
          · intro h
            cases h
          · rintro ⟨⟨hdigit, -⟩, -⟩
            rw [digit?_eq_some_iff.mpr ⟨hdigit, rfl⟩] at hc
            cases hc
      | some d =>
          obtain ⟨hdigit, rfl⟩ := digit?_eq_some_iff.mp hc
          have hcarry (v : Nat) : (acc * 10 + (c.toNat - '0'.toNat)) * 10 ^ s.length + v =
              acc * 10 ^ (s.length + 1) + ((c.toNat - '0'.toNat) * 10 ^ s.length + v) := by
            rw [Nat.add_mul, Nat.mul_assoc, ← Nat.pow_succ', Nat.add_assoc]
          simp only [readOnto, hc, ih, hcarry, hdigit, and_self, true_and]

theorem digits?_eq_some_iff {n : Nat} : digits? s = some n ↔ Spells s n := by
  cases s with
  | nil =>
      constructor
      · intro h
        cases h
      · intro h
        exact absurd rfl h.1
  | cons c s =>
      have hread : digits? (c :: s) = readOnto 0 (c :: s) := rfl
      rw [hread, readOnto_eq_some_iff, Nat.zero_mul, Nat.zero_add]
      constructor
      · rintro ⟨hdigits, hn⟩
        exact ⟨List.cons_ne_nil c s, hdigits, hn.symm⟩
      · rintro ⟨-, hdigits, hn⟩
        exact ⟨hdigits, hn.symm⟩

theorem upTo?_eq_some_iff {limit n : Nat} : upTo? limit s = some n ↔ Spells s n ∧ n ≤ limit := by
  rw [upTo?, Option.filter_eq_some_iff, digits?_eq_some_iff, decide_eq_true_iff]

theorem Spells.digits {n : Nat} (h : Spells s n) : ∀ c ∈ s, isDigit c = true := by
  intro c hc
  exact isDigit_iff.mpr (h.2.1 c hc)

theorem isDigit_of_upTo? {limit n : Nat} (h : upTo? limit s = some n) :
    ∀ c ∈ s, isDigit c = true :=
  (upTo?_eq_some_iff.mp h).1.digits

/-- No digit is a sign. -/
theorem Spells.not_mem {n : Nat} (h : Spells s n) {c : Char} (hc : isDigit c = false) : c ∉ s := by
  intro hmem
  rw [h.digits c hmem] at hc
  cases hc

/-- Digits spell one number. -/
theorem Spells.unique {m n : Nat} (hm : Spells s m) (hn : Spells s n) : m = n :=
  hm.2.2.symm.trans hn.2.2

theorem Spells.isAscii {n : Nat} (h : Spells s n) : ∀ c ∈ s, c.toNat < 128 := by
  intro c hc
  have hnine : c.toNat ≤ '9'.toNat := (h.2.1 c hc).2
  exact Nat.lt_of_le_of_lt hnine (by decide)

theorem int?_of_spells {n : Nat} (h : Spells s n) : int? s = some (n : Int) := by
  cases s with
  | nil => exact absurd rfl h.1
  | cons c s =>
      have hminus : c ≠ '-' := by
        rintro rfl
        exact h.not_mem (by decide) List.mem_cons_self
      have hplus : c ≠ '+' := by
        rintro rfl
        exact h.not_mem (by decide) List.mem_cons_self
      rw [int?, if_neg hminus, if_neg hplus, digits?_eq_some_iff.mpr h, Option.map_some]

/-- A number of at most `limit`, perhaps behind a plus sign. -/
theorem unsigned?_eq_some_iff {limit n : Nat} :
    unsigned? limit s = some n ↔
      ∃ sign digits, s = sign ++ digits ∧ (sign = [] ∨ sign = ['+']) ∧ Spells digits n ∧ n ≤ limit := by
  constructor
  · intro h
    unfold unsigned? at h
    split at h
    · exact ⟨['+'], _, rfl, Or.inr rfl, upTo?_eq_some_iff.mp h⟩
    · exact ⟨[], _, rfl, Or.inl rfl, upTo?_eq_some_iff.mp h⟩
  · rintro ⟨sign, digits, rfl, hsign, hdigits, hlimit⟩
    have hread : upTo? limit digits = some n := upTo?_eq_some_iff.mpr ⟨hdigits, hlimit⟩
    rcases hsign with rfl | rfl
    · rw [List.nil_append, unsigned?]
      · exact hread
      · rintro rest rfl
        exact hdigits.not_mem (by decide) List.mem_cons_self
    · exact hread

end

/-! ## Written numbers -/

theorem spells_write (n : Nat) : Spells (write n) n :=
  digits?_eq_some_iff.mp (digits?_write n)

/-- Zeros in front add nothing. -/
theorem value_zeros (k : Nat) (s : List Char) : value (List.replicate k '0' ++ s) = value s := by
  induction k with
  | zero => rfl
  | succ k ih =>
      rw [List.replicate_succ, List.cons_append, value_cons, ih, Nat.sub_self, Nat.zero_mul,
        Nat.zero_add]

theorem spells_padded (width n : Nat) : Spells (padded width n) n := by
  obtain ⟨hne, hdigits, hvalue⟩ := spells_write n
  refine ⟨List.append_ne_nil_of_right_ne_nil _ hne, ?_, (value_zeros _ _).trans hvalue⟩
  intro c hc
  rcases List.mem_append.mp hc with hzero | hc
  · rw [List.eq_of_mem_replicate hzero]
    decide
  · exact hdigits c hc

theorem length_write_le {width n : Nat} (hwidth : 0 < width) (hn : n < 10 ^ width) :
    (write n).length ≤ width := by
  induction n using write.induct generalizing width with
  | case1 n h =>
      rw [write, if_pos h]
      exact hwidth
  | case2 n h ih =>
      obtain ⟨k, rfl⟩ := Nat.exists_eq_add_of_lt hwidth
      rw [Nat.zero_add, Nat.pow_succ] at hn
      have hk : 0 < k := by
        rcases Nat.eq_zero_or_pos k with rfl | hk
        · omega
        · exact hk
      rw [write, if_neg h, List.length_append]
      have hhigher := ih hk (by omega)
      simp only [List.length_cons, List.length_nil]
      omega

theorem length_padded {width n : Nat} (hwidth : 0 < width) (hn : n < 10 ^ width) :
    (padded width n).length = width := by
  rw [padded, List.length_append, List.length_replicate]
  exact Nat.sub_add_cancel (length_write_le hwidth hn)

theorem le_length_padded (width n : Nat) : width ≤ (padded width n).length := by
  rw [padded, List.length_append, List.length_replicate]
  omega

end CertRotation.Text.Decimal
