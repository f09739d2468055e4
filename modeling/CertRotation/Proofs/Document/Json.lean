/-
# `Proofs.Document.Json` — what is read from JSON is well formed

By induction on the steps that are left: `put` keeps the names of an object distinct, and every
value below is read in fewer steps.
-/
import CertRotation.Document.Json
import CertRotation.Proofs.Document.Value

namespace CertRotation.Document.Json

theorem wellFormed_integer (negative : Bool) (n : Nat) : (integer negative n).WellFormed := by
  unfold integer
  split
  · split
    · exact .real _
    · exact .int _
  · exact .real _

theorem wellFormed_numberValue {negative : Bool} {whole fraction : List Char} {e : Option Int}
    {v : Value} (h : numberValue negative whole fraction e = some v) : v.WellFormed := by
  unfold numberValue real? at h
  dsimp only at h
  split at h
  · rw [← Option.some.inj h]
    exact wellFormed_integer negative _
  · obtain ⟨x, -, rfl⟩ := Option.map_eq_some_iff.mp h
    exact .real _

theorem wellFormed_unsigned {negative : Bool} {s r : List Char} {v : Value}
    (h : unsigned negative s = some (v, r)) : v.WellFormed := by
  unfold unsigned at h
  dsimp only at h
  split at h
  · nomatch h
  · split at h
    · nomatch h
    · split at h
      · nomatch h
      · obtain ⟨w, hw, heq⟩ := Option.map_eq_some_iff.mp h
        obtain ⟨rfl, -⟩ := Prod.mk.inj heq
        exact wellFormed_numberValue hw

theorem wellFormed_number {s r : List Char} {v : Value} (h : number s = some (v, r)) :
    v.WellFormed := by
  unfold number at h
  split at h
  · exact wellFormed_unsigned h
  · exact wellFormed_unsigned h

theorem wellFormed_word {w s r : List Char} {v v' : Value} (hv : v.WellFormed)
    (h : word? w v s = some (v', r)) : v'.WellFormed := by
  unfold word? at h
  split at h
  · obtain ⟨rfl, -⟩ := Prod.mk.inj (Option.some.inj h)
    exact hv
  · nomatch h

/-- What is read in `n` steps is well formed. -/
structure ReadsWellFormed (n : Nat) : Prop where
  value {depth : Nat} {s r : List Char} {v : Value} :
    value n depth s = some (v, r) → v.WellFormed
  elements {depth : Nat} {s r : List Char} {vs : List Value} :
    elements n depth s = some (vs, r) → ∀ v ∈ vs, v.WellFormed
  members {depth : Nat} {fs fs' : Fields} {s r : List Char} :
    members n depth fs s = some (fs', r) → fs.Sound Value.WellFormed → fs'.Sound Value.WellFormed

section
variable {n depth : Nat} {s r : List Char}

theorem ReadsWellFormed.value_succ (ih : ReadsWellFormed n) {v : Value} (h : Json.value (n + 1) depth s = some (v, r)) :
    v.WellFormed := by
  unfold Json.value at h
  split at h
  · obtain ⟨⟨t, rest⟩, -, heq⟩ := Option.map_eq_some_iff.mp h
    obtain ⟨rfl, -⟩ := Prod.mk.inj heq
    exact .text _
  · split at h
    · nomatch h
    · obtain ⟨rfl, -⟩ := Prod.mk.inj (Option.some.inj h)
      exact .list fun v hv => absurd hv List.not_mem_nil
    · obtain ⟨⟨t, rest⟩, ht, heq⟩ := Option.map_eq_some_iff.mp h
      obtain ⟨rfl, -⟩ := Prod.mk.inj heq
      exact .list (ih.elements ht)
  · split at h
    · nomatch h
    · obtain ⟨rfl, -⟩ := Prod.mk.inj (Option.some.inj h)
      exact Value.wellFormed_table .nil
    · obtain ⟨⟨t, rest⟩, ht, heq⟩ := Option.map_eq_some_iff.mp h
      obtain ⟨rfl, -⟩ := Prod.mk.inj heq
      exact Value.wellFormed_table (ih.members ht .nil)
  · exact wellFormed_word .null h
  · exact wellFormed_word (.bool true) h
  · exact wellFormed_word (.bool false) h
  · exact wellFormed_number h

theorem ReadsWellFormed.elements_succ (ih : ReadsWellFormed n) {vs : List Value}
    (h : Json.elements (n + 1) depth s = some (vs, r)) : ∀ v ∈ vs, v.WellFormed := by
  unfold Json.elements at h
  split at h
  · nomatch h
  · rename_i v rest hv
    split at h
    · obtain ⟨rfl, -⟩ := Prod.mk.inj (Option.some.inj h)
      intro w hw
      rw [List.mem_singleton.mp hw]
      exact ih.value hv
    · obtain ⟨⟨t, rest⟩, ht, heq⟩ := Option.map_eq_some_iff.mp h
      obtain ⟨rfl, -⟩ := Prod.mk.inj heq
      intro w hw
      rcases List.mem_cons.mp hw with rfl | hw
      · exact ih.value hv
      · exact ih.elements ht w hw
    · nomatch h

theorem ReadsWellFormed.members_succ (ih : ReadsWellFormed n) {fs fs' : Fields}
    (h : Json.members (n + 1) depth fs s = some (fs', r))
    (hfs : fs.Sound Value.WellFormed) : fs'.Sound Value.WellFormed := by
  unfold Json.members at h
  split at h
  · split at h
    · nomatch h
    · rename_i k rest hk
      split at h
      · split at h
        · nomatch h
        · rename_i v rest' hv
          have hput := hfs.put (String.ofList k) (ih.value hv)
          dsimp only at h
          split at h
          · obtain ⟨rfl, -⟩ := Prod.mk.inj (Option.some.inj h)
            exact hput
          · exact ih.members h hput
          · nomatch h
      · nomatch h
  · nomatch h

end

theorem readsWellFormed (n : Nat) : ReadsWellFormed n := by
  induction n with
  | zero =>
      refine ⟨?_, ?_, ?_⟩
      · intro depth s r v h
        unfold Json.value at h
        nomatch h
      · intro depth s r vs h
        unfold Json.elements at h
        nomatch h
      · intro depth fs fs' s r h
        unfold Json.members at h
        nomatch h
  | succ n ih => exact ⟨ih.value_succ, ih.elements_succ, ih.members_succ⟩

theorem wellFormed_parse? {s : List Char} {v : Value} (h : parse? s = some v) : v.WellFormed := by
  unfold parse? at h
  split at h
  · rename_i w r hw
    split at h
    · rw [← Option.some.inj h]
      exact (readsWellFormed _).value hw
    · nomatch h
  · nomatch h

end CertRotation.Document.Json
