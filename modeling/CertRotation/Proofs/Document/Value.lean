/-
# `Proofs.Document.Value` — documents whose fields have distinct names

A table is a list of fields, and nothing in its type keeps a name from standing in it twice.  The
readers of all three formats give tables in which none does, at any depth, and to such a document
laying it over nothing does nothing:

    `v.WellFormed`  ⟹  `v.overlay none = v`      (`WellFormed.overlay_none`)

Without it the two ways to look at a field would differ: `get?` finds the first one of a name, and
`overlay` keeps the last.
-/
import CertRotation.Document.Value

namespace CertRotation.Document

/-! ## Names -/

namespace Named

variable {α : Type}

/-- The names in use. -/
def names (fs : Named α) : List String :=
  fs.map Prod.fst

theorem get?_eq_none_iff {fs : Named α} {k : String} : fs.get? k = none ↔ k ∉ fs.names := by
  induction fs with
  | nil => exact ⟨fun _ => List.not_mem_nil, fun _ => rfl⟩
  | cons f r ih =>
      obtain ⟨k', v⟩ := f
      rw [get?_cons]
      by_cases h : k = k'
      · have hmem : k ∈ names ((k', v) :: r) := by
          rw [h]
          exact List.mem_cons_self
        rw [if_pos h]
        exact ⟨fun hnone => absurd hnone (Option.some_ne_none v), fun hnot => absurd hmem hnot⟩
      · rw [if_neg h, ih]
        exact ⟨fun hnot hmem => (List.mem_cons.mp hmem).elim h hnot,
          fun hnot hmem => hnot (List.mem_cons_of_mem _ hmem)⟩

theorem mem_of_get? {fs : Named α} {k : String} {v : α} (h : fs.get? k = some v) :
    (k, v) ∈ fs := by
  induction fs with
  | nil => nomatch h
  | cons f r ih =>
      obtain ⟨k', v'⟩ := f
      rw [get?_cons] at h
      by_cases hk : k = k'
      · rw [if_pos hk] at h
        rw [hk, Option.some.inj h]
        exact List.mem_cons_self
      · rw [if_neg hk] at h
        exact List.mem_cons_of_mem _ (ih h)

theorem put_of_not_mem {fs : Named α} {k : String} (h : k ∉ fs.names) (v : α) :
    fs.put k v = fs ++ [(k, v)] := by
  induction fs with
  | nil => rfl
  | cons f r ih =>
      obtain ⟨k', v'⟩ := f
      have hne : k ≠ k' := fun he => h (he ▸ List.mem_cons_self)
      have hrest : k ∉ names r := fun hmem => h (List.mem_cons_of_mem _ hmem)
      rw [put, if_neg hne, ih hrest, List.cons_append]

theorem mem_put {fs : Named α} {k : String} {v : α} {f : String × α}
    (h : f ∈ fs.put k v) : f = (k, v) ∨ f ∈ fs := by
  induction fs with
  | nil => exact Or.inl (List.mem_singleton.mp h)
  | cons g r ih =>
      obtain ⟨k', v'⟩ := g
      unfold put at h
      by_cases hk : k = k'
      · rw [if_pos hk] at h
        exact (List.mem_cons.mp h).imp_right (List.mem_cons_of_mem _)
      · rw [if_neg hk] at h
        rcases List.mem_cons.mp h with h | h
        · exact Or.inr (h ▸ List.mem_cons_self)
        · exact (ih h).imp_right (List.mem_cons_of_mem _)

theorem nodup_names_put {fs : Named α} (h : fs.names.Nodup) (k : String) (v : α) :
    (fs.put k v).names.Nodup := by
  induction fs with
  | nil => exact List.nodup_cons.mpr ⟨List.not_mem_nil, List.nodup_nil⟩
  | cons g r ih =>
      obtain ⟨k', v'⟩ := g
      obtain ⟨hnot, hrest⟩ := List.nodup_cons.mp h
      unfold put
      by_cases hk : k = k'
      · rw [if_pos hk, hk]
        exact List.nodup_cons.mpr ⟨hnot, hrest⟩
      · rw [if_neg hk]
        refine List.nodup_cons.mpr ⟨?_, ih hrest⟩
        intro hmem
        obtain ⟨f, hf, hname⟩ := List.mem_map.mp hmem
        rcases mem_put hf with rfl | hf
        · exact hk hname
        · exact hnot (List.mem_map.mpr ⟨f, hf, hname⟩)

/-- Names that are distinct, for things that all have a property. -/
structure Sound (p : α → Prop) (fs : Named α) : Prop where
  names : fs.names.Nodup
  values : ∀ f ∈ fs, p f.2

namespace Sound

variable {p : α → Prop} {fs : Named α}

theorem nil : Sound p ([] : Named α) :=
  ⟨List.nodup_nil, fun _ h => absurd h List.not_mem_nil⟩

theorem put (h : fs.Sound p) (k : String) {v : α} (hv : p v) : (fs.put k v).Sound p := by
  refine ⟨nodup_names_put h.names k v, ?_⟩
  intro f hf
  rcases mem_put hf with rfl | hf
  · exact hv
  · exact h.values f hf

theorem get? (h : fs.Sound p) {k : String} {v : α} (hv : fs.get? k = some v) : p v :=
  h.values _ (mem_of_get? hv)

theorem cons {k : String} (hk : k ∉ fs.names) {v : α} (hv : p v) (h : fs.Sound p) :
    Sound p ((k, v) :: fs) := by
  refine ⟨List.nodup_cons.mpr ⟨hk, h.names⟩, ?_⟩
  intro f hf
  rcases List.mem_cons.mp hf with rfl | hf
  · exact hv
  · exact h.values f hf

theorem tail {f : String × α} (h : Sound p (f :: fs)) : fs.Sound p :=
  ⟨(List.nodup_cons.mp h.names).2, fun g hg => h.values g (List.mem_cons_of_mem _ hg)⟩

end Sound
end Named

/-! ## Well-formed documents -/

/-- In no table of the value do two fields have one name. -/
inductive Value.WellFormed : Value → Prop
  | null : WellFormed .null
  | bool (b : Bool) : WellFormed (.bool b)
  | int (i : Int) : WellFormed (.int i)
  | real (x : Real64) : WellFormed (.real x)
  | text (s : String) : WellFormed (.text s)
  | list {vs : List Value} (items : ∀ v ∈ vs, WellFormed v) : WellFormed (.list vs)
  | table {fs : List (String × Value)} (names : (Named.names fs).Nodup)
      (values : ∀ f ∈ fs, WellFormed f.2) : WellFormed (.table fs)

namespace Value

theorem wellFormed_table {fs : Fields} (h : fs.Sound WellFormed) : (table fs).WellFormed :=
  .table h.names h.values

theorem WellFormed.fields {v : Value} (h : v.WellFormed) : v.fields.Sound WellFormed := by
  cases h with
  | table names values => exact ⟨names, values⟩
  | null => exact .nil
  | bool b => exact .nil
  | int i => exact .nil
  | real x => exact .nil
  | text s => exact .nil
  | list items => exact .nil

mutual

/-- A well-formed value laid over nothing is itself. -/
theorem WellFormed.overlay_none : ∀ {v : Value}, v.WellFormed → v.overlay none = v
  | .null, _ => rfl
  | .bool _, _ => rfl
  | .int _, _ => rfl
  | .real _, _ => rfl
  | .text _, _ => rfl
  | .list _, _ => rfl
  | .table fs, h => by
      rw [overlay, Option.getD_none]
      exact overlayFields_append fs [] h.fields fun k _ => List.not_mem_nil

/-- Fields laid over others come behind them, if they have other names. -/
theorem overlayFields_append : ∀ (fs : List (String × Value)) (acc : Fields),
    Named.Sound WellFormed fs → (∀ k ∈ Named.names fs, k ∉ acc.names) →
    overlayFields fs (.table acc) = .table (acc ++ fs)
  | [], acc, _, _ => by
      rw [overlayFields, List.append_nil]
  | (k, v) :: r, acc, h, hnew => by
      have hk : k ∉ acc.names := hnew k List.mem_cons_self
      have hnot : k ∉ Named.names r := (List.nodup_cons.mp h.names).1
      have hv : v.overlay none = v := WellFormed.overlay_none (h.values (k, v) List.mem_cons_self)
      have hafter : ∀ j ∈ Named.names r, j ∉ Named.names (acc ++ [(k, v)]) := by
        intro j hj hmem
        rw [Named.names, List.map_append] at hmem
        rcases List.mem_append.mp hmem with hmem | hmem
        · exact hnew j (List.mem_cons_of_mem _ hj) hmem
        · have hjk : j = k := List.mem_singleton.mp hmem
          exact hnot (hjk ▸ hj)
      rw [overlayFields, show (Value.table acc).fields = acc from rfl,
        Named.get?_eq_none_iff.mpr hk, hv, Named.put_of_not_mem hk,
        overlayFields_append r _ h.tail hafter, List.append_assoc]
      rfl

end

end Value
end CertRotation.Document
