/-
# `Proofs.Key` — what it takes an RSA key to sign

A signature of an RSA key is made modulo each of its two primes and verified modulo their product.
Reading a key checks neither that the primes are primes nor that its exponents undo each other, and
`RsaPrivate.signs` looks at the exponents alone.  Between primes that is all there is to see:

    an exponent keeps every number modulo a prime p   ⟺   it is 1 modulo p - 1    (`forall_pow_mod_iff`)
    a key signs   ⟺   whatever it signs verifies under its modulus                (`signs_iff`)
-/
import Mathlib.Data.Nat.ChineseRemainder
import Mathlib.FieldTheory.Finite.Basic
import CertRotation.Key

namespace CertRotation

open Crypto

theorem Crypto.square_pow_mod (base half m : Nat) :
    (base * base % m) ^ half % m = base ^ (2 * half) % m := by
  rw [← Nat.pow_mod, ← Nat.pow_two, ← Nat.pow_mul]

/-- Repeated squaring computes the power. -/
theorem Crypto.powMod_eq (base exponent m : Nat) : powMod base exponent m = base ^ exponent % m := by
  fun_induction powMod base exponent m with
  | case1 base => rw [Nat.pow_zero]
  | case2 base exponent hne half hodd ih =>
      have hhalf : half = base ^ (2 * (exponent / 2)) % m := ih.trans (square_pow_mod base _ m)
      have hsplit : 2 * (exponent / 2) + 1 = exponent := by omega
      rw [hhalf, Nat.mod_mul_mod, ← pow_succ, hsplit]
  | case3 base exponent hne half heven ih =>
      have hhalf : half = base ^ (2 * (exponent / 2)) % m := ih.trans (square_pow_mod base _ m)
      have hsplit : 2 * (exponent / 2) = exponent := by omega
      rw [hhalf, hsplit]

/-- A power that keeps every number modulo a prime has an exponent, and keeps units by one less. -/
theorem units_pow_of_forall_pow_mod {p i : Nat} (hp : p.Prime) (hkept : ∀ m, m ^ i ≡ m [MOD p]) :
    ∃ j, i = j + 1 ∧ ∀ x : (ZMod p)ˣ, x ^ j = 1 := by
  have : Fact p.Prime := ⟨hp⟩
  have hpos : i ≠ 0 := by
    rintro rfl
    have hone : 1 ≡ 0 [MOD p] := hkept 0
    exact hp.one_lt.not_ge (Nat.le_of_dvd one_pos (Nat.modEq_zero_iff_dvd.mp hone))
  obtain ⟨j, rfl⟩ := Nat.exists_eq_succ_of_ne_zero hpos
  refine ⟨j, rfl, fun x => ?_⟩
  have hx : (x : ZMod p) ^ (j + 1) = x := by
    have hcast := (ZMod.natCast_eq_natCast_iff _ _ p).mpr (hkept (x : ZMod p).val)
    rwa [Nat.cast_pow, ZMod.natCast_zmod_val] at hcast
  have hx' : x ^ j * x = x := Units.ext (by rw [← pow_succ]; exact_mod_cast hx)
  exact mul_eq_right.mp hx'

/-- An exponent keeps every number modulo an odd prime exactly if it is 1 modulo the number below. -/
theorem forall_pow_mod_iff {p i : Nat} (hp : p.Prime) (hodd : p % 2 = 1) :
    (∀ m, m ^ i ≡ m [MOD p]) ↔ i % (p - 1) = 1 := by
  have : Fact p.Prime := ⟨hp⟩
  have hlarge : 2 < p := lt_of_le_of_ne hp.two_le fun h => by omega
  constructor
  · intro hkept
    obtain ⟨j, rfl, hunits⟩ := units_pow_of_forall_pow_mod hp hkept
    have hdvd : p - 1 ∣ j := by
      have hcard := (FiniteField.forall_pow_eq_one_iff (ZMod p) j).mp hunits
      rwa [ZMod.card] at hcard
    rw [Nat.add_mod, Nat.mod_eq_zero_of_dvd hdvd, Nat.zero_add, Nat.mod_mod, Nat.mod_eq_of_lt]
    omega
  · intro hone m
    refine (ZMod.natCast_eq_natCast_iff _ _ p).mp ?_
    rw [Nat.cast_pow, ← Nat.div_add_mod i (p - 1), hone, pow_succ, pow_mul]
    by_cases hm : (m : ZMod p) = 0
    · rw [hm, mul_zero]
    · rw [ZMod.pow_card_sub_one_eq_one hm, one_pow, one_mul]

/-- A signature modulo a prime verifies modulo it if the two exponents together keep the message. -/
theorem pow_modEq_iff {p d e m s : Nat} (hs : s ≡ m ^ d [MOD p]) :
    s ^ e ≡ m [MOD p] ↔ m ^ (d * e) ≡ m [MOD p] := by
  rw [pow_mul]
  exact ⟨fun h => (hs.pow e).symm.trans h, fun h => (hs.pow e).trans h⟩

namespace RsaPrivate

/-- What reading a key makes sure of two primes: they are odd, they differ, and their product is the
modulus. -/
theorem primes_of_isConsistent {k : RsaPrivate} (h : k.isConsistent = true) :
    k.p % 2 = 1 ∧ k.q % 2 = 1 ∧ k.p ≠ k.q ∧ k.p * k.q = k.n := by
  simp only [isConsistent, Bool.and_eq_true, beq_iff_eq] at h
  obtain ⟨⟨⟨⟨⟨⟨⟨⟨⟨⟨⟨⟨-, hp⟩, hq⟩, hn⟩, -⟩, -⟩, -⟩, -⟩, -⟩, -⟩, -⟩, -⟩, hinverse⟩ := h
  refine ⟨hp, hq, fun hsame => ?_, hn⟩
  rw [hsame, Nat.mul_mod_left] at hinverse
  exact zero_ne_one hinverse

/-- A key of primes signs exactly if whatever is a signature modulo both of them verifies. -/
theorem signs_iff {k : RsaPrivate} (hk : k.isConsistent = true) (hp : k.p.Prime) (hq : k.q.Prime) :
    k.signs = true ↔ ∀ m s, s % k.p = powMod m k.dP k.p → s % k.q = powMod m k.dQ k.q →
      powMod s k.e k.n = m % k.n := by
  obtain ⟨hpodd, hqodd, hne, hn⟩ := primes_of_isConsistent hk
  have hcoprime : k.p.Coprime k.q := (Nat.coprime_primes hp hq).mpr hne
  have hboth (m s : Nat) : s ^ k.e ≡ m [MOD k.n] ↔ s ^ k.e ≡ m [MOD k.p] ∧ s ^ k.e ≡ m [MOD k.q] := by
    rw [← hn]
    exact (Nat.modEq_and_modEq_iff_modEq_mul hcoprime).symm
  rw [signs, Bool.and_eq_true, beq_iff_eq, beq_iff_eq, ← forall_pow_mod_iff hp hpodd,
    ← forall_pow_mod_iff hq hqodd]
  simp only [powMod_eq]
  constructor
  · rintro ⟨hkeptP, hkeptQ⟩ m s hsP hsQ
    exact (hboth m s).mpr ⟨(pow_modEq_iff hsP).mpr (hkeptP m), (pow_modEq_iff hsQ).mpr (hkeptQ m)⟩
  · intro hverifies
    -- Every message has a signature, by the remainders that it must leave.
    have hkept (m : Nat) : m ^ (k.dP * k.e) ≡ m [MOD k.p] ∧ m ^ (k.dQ * k.e) ≡ m [MOD k.q] := by
      obtain ⟨s, hsP, hsQ⟩ := Nat.chineseRemainder hcoprime (m ^ k.dP) (m ^ k.dQ)
      obtain ⟨hverP, hverQ⟩ := (hboth m s).mp (hverifies m s hsP hsQ)
      exact ⟨(pow_modEq_iff hsP).mp hverP, (pow_modEq_iff hsQ).mp hverQ⟩
    exact ⟨fun m => (hkept m).1, fun m => (hkept m).2⟩

end RsaPrivate
end CertRotation
