/-
# `Proofs.Target.Spelling` — the texts of a target

A target has many texts and one canonical one, the one that is written:

    the texts of a target      a host that is not empty, a colon, and behind it, with or without a plus
                               sign, digits that spell the port        (`parse?_eq_some_iff`)
    the canonical text         is one of them                          (`spells_write`)

So what is written reads back, whatever the host holds: a host may have colons and digits of its own,
but what stands behind the last colon is the port, and a port has no colon.
-/
import CertRotation.Proofs.Text.Blank
import CertRotation.Proofs.Text.Decimal
import CertRotation.Target

namespace CertRotation.Target

open Text

/-- A text spells a target: the host, which is not empty, a colon, and the port in decimal digits,
perhaps behind a plus sign.  The port has no colon, so it is what stands behind the last one. -/
def Spells (s : String) (t : Target) : Prop :=
  ∃ host sign digits n,
    s.toList = host ++ ':' :: (sign ++ digits) ∧ host ≠ [] ∧ (sign = [] ∨ sign = ['+']) ∧
      Decimal.Spells digits n ∧ n ≤ 65535 ∧ t = ⟨String.ofList host, UInt16.ofNat n⟩

/-- The canonical text of the target that a text spells. -/
def canonical? (s : String) : Option String :=
  (parse? s).map write

section
variable {s : String} {t : Target}

/-! ## Reading -/

/-- No colon stands in a port, -/
theorem colon_not_mem_port {sign digits : List Char} {n : Nat} (hsign : sign = [] ∨ sign = ['+'])
    (hdigits : Decimal.Spells digits n) : ':' ∉ sign ++ digits := by
  rw [List.mem_append]
  rintro (h | h)
  · rcases hsign with rfl | rfl
    · exact absurd h List.not_mem_nil
    · exact absurd h (by decide)
  · exact hdigits.not_mem (by decide) h

/-- so the colon in front of it is the last one, however many the host has. -/
theorem parse?_of_spells (h : Spells s t) : parse? s = some t := by
  obtain ⟨host, sign, digits, n, hs, hhost, hsign, hdigits, hlimit, rfl⟩ := h
  have hsplit : splitLast ':' s.toList = some (host, sign ++ digits) :=
    splitLast_eq_some_iff.mpr ⟨hs, colon_not_mem_port hsign hdigits⟩
  have hport : Decimal.unsigned? 65535 (sign ++ digits) = some n :=
    Decimal.unsigned?_eq_some_iff.mpr ⟨sign, digits, rfl, hsign, hdigits, hlimit⟩
  have hempty : host.isEmpty = false := List.isEmpty_eq_false_iff.mpr hhost
  simp only [parse?, hsplit, hport, hempty, Bool.false_eq_true, if_false]

theorem spells_of_parse? (h : parse? s = some t) : Spells s t := by
  unfold parse? at h
  split at h
  · cases h
  · rename_i host port hsplit
    obtain ⟨hs, -⟩ := splitLast_eq_some_iff.mp hsplit
    split at h
    · cases h
    · rename_i n hport
      obtain ⟨sign, digits, rfl, hsign, hdigits, hlimit⟩ := Decimal.unsigned?_eq_some_iff.mp hport
      split at h
      · cases h
      · rename_i hempty
        have hhost : host ≠ [] := fun e => hempty (List.isEmpty_iff.mpr e)
        exact ⟨host, sign, digits, n, hs, hhost, hsign, hdigits, hlimit, (Option.some.inj h).symm⟩

/-- The texts that are read as a target are those that spell it. -/
theorem parse?_eq_some_iff : parse? s = some t ↔ Spells s t :=
  ⟨spells_of_parse?, parse?_of_spells⟩

theorem host_ne_of_parse? (h : parse? s = some t) : t.host ≠ "" := by
  obtain ⟨host, -, -, -, -, hhost, -, -, -, rfl⟩ := spells_of_parse? h
  intro hnone
  exact hhost (String.ofList_eq_empty_iff.mp hnone)

/-! ## Writing -/

theorem toList_write (t : Target) :
    t.write.toList = t.host.toList ++ ':' :: Decimal.write t.port.toNat := by
  rw [write, String.toList_append, String.toList_append, String.toList_ofList, String.toList_ofList,
    List.append_assoc, List.singleton_append]

theorem spells_write (h : t.host ≠ "") : Spells t.write t := by
  refine ⟨t.host.toList, [], Decimal.write t.port.toNat, t.port.toNat, toList_write t, ?_, Or.inl rfl,
    Decimal.spells_write _, Nat.le_of_lt_succ t.port.toNat_lt, ?_⟩
  · intro hnil
    exact h (String.toList_eq_nil_iff.mp hnil)
  · rw [String.ofList_toList, UInt16.ofNat_toNat]

theorem parse?_write (h : t.host ≠ "") : parse? t.write = some t :=
  parse?_of_spells (spells_write h)

/-- A target without a host is written as a text that is not read: its only colon comes first. -/
theorem parse?_write_of_empty (h : t.host = "") : parse? t.write = none := by
  have hcolon : ':' ∉ Decimal.write t.port.toNat := (Decimal.spells_write _).not_mem (by decide)
  have hwritten : t.write.toList = [] ++ ':' :: Decimal.write t.port.toNat := by
    rw [toList_write, h]
    rfl
  have hsplit : splitLast ':' t.write.toList = some ([], Decimal.write t.port.toNat) :=
    splitLast_eq_some_iff.mpr ⟨hwritten, hcolon⟩
  simp only [parse?, hsplit, List.isEmpty_nil, if_true]
  cases Decimal.unsigned? 65535 (Decimal.write t.port.toNat) with
  | none => rfl
  | some n => rfl

/-! ## The canonical text -/

/-- The canonical text of a text is read as the text itself is. -/
theorem canonical?_bind_parse? (s : String) : (canonical? s).bind parse? = parse? s := by
  rw [canonical?]
  cases ht : parse? s with
  | none => rfl
  | some t => exact parse?_write (host_ne_of_parse? ht)

theorem parse?_eq_iff (s s' : String) : parse? s = parse? s' ↔ canonical? s = canonical? s' := by
  constructor
  · intro h
    rw [canonical?, canonical?, h]
  · intro h
    rw [← canonical?_bind_parse? s, ← canonical?_bind_parse? s', h]

/-- A canonical text is its own. -/
theorem canonical?_canonical {c : String} (h : canonical? s = some c) : canonical? c = some c := by
  obtain ⟨t, ht, rfl⟩ := Option.map_eq_some_iff.mp h
  rw [canonical?, parse?_write (host_ne_of_parse? ht), Option.map_some]

end

/-- What is read as a target, and what it is written as.  The texts of a target are those that spell
it.  The text that is written is one of them, if there is a host; without one it is not read.  It is
canonical: two texts are read as the same target exactly if they have the same canonical text, and
that one is its own. -/
theorem read_as_spelled :
    (∀ s t, parse? s = some t ↔ Spells s t) ∧
    (∀ t : Target, t.host ≠ "" → parse? t.write = some t) ∧
    (∀ t : Target, t.host = "" → parse? t.write = none) ∧
    (∀ s s' t t', parse? s = some t → parse? s' = some t' → (t = t' ↔ t.write = t'.write)) ∧
    (∀ s s', parse? s = parse? s' ↔ canonical? s = canonical? s') ∧
    (∀ s c, canonical? s = some c → canonical? c = some c) := by
  refine ⟨?_, ?_, ?_, ?_, parse?_eq_iff, ?_⟩
  · intro s t
    exact parse?_eq_some_iff
  · intro t h
    exact parse?_write h
  · intro t h
    exact parse?_write_of_empty h
  · intro s s' t t' ht ht'
    constructor
    · intro h
      rw [h]
    · intro h
      have hread : some t = some t' := by
        rw [← parse?_write (host_ne_of_parse? ht), h, parse?_write (host_ne_of_parse? ht')]
      exact Option.some.inj hread
  · intro s c h
    exact canonical?_canonical h

/-- A host with colons and digits of its own, and zeros and a sign in front of the port. -/
example : parse? "[::1]:80:+00443" = some ⟨"[::1]:80", 443⟩ := by
  decide

end CertRotation.Target
