/-
# `Proofs.Document.Toml` — what is read from TOML is well formed

A key that occurs twice is found in two places.  While the lines of one header are read, dotted
keys may come back to a table, and only `close` looks for repetitions; between headers `join`
refuses what is there already, and `insert` enters what it finds.

    every value below is well formed   ⟹  the closed fields are   (`sound_close`)
    the tree has distinct names        ⟹  it still has them behind another header (`sound_insert`)
-/
import CertRotation.Document.Toml
import CertRotation.Proofs.Document.Value
import Mathlib.Data.List.TakeDrop

namespace CertRotation.Document.Toml

open Value (WellFormed)

/-! ## Scalars -/

theorem wellFormed_real? {w rest r : List Char} {fraction : Option (List Char)} {v : Value}
    (h : real? w fraction rest = some (v, r)) : v.WellFormed := by
  unfold real? at h
  dsimp only at h
  split at h
  · nomatch h
  · split at h
    · nomatch h
    · split at h
      · split at h
        · nomatch h
        · obtain ⟨rfl, -⟩ := Prod.mk.inj (Option.some.inj h)
          exact .real _
      · nomatch h

theorem wellFormed_number? {w rest r : List Char} {v : Value}
    (h : number? w rest = some (v, r)) : v.WellFormed := by
  have hwhole {i : Option Int} (hi : i.map (fun i => (Value.int i, rest)) = some (v, r)) :
      v.WellFormed := by
    obtain ⟨n, -, heq⟩ := Option.map_eq_some_iff.mp hi
    obtain ⟨rfl, -⟩ := Prod.mk.inj heq
    exact .int n
  unfold number? at h
  dsimp only at h
  split at h
  · exact hwhole h
  · exact hwhole h
  · exact hwhole h
  · split at h
    · exact wellFormed_real? h
    · split at h
      · split at h
        · exact wellFormed_real? h
        · nomatch h
      · split at h
        · obtain ⟨rfl, -⟩ := Prod.mk.inj (Option.some.inj h)
          exact .real _
        · split at h
          · obtain ⟨rfl, -⟩ := Prod.mk.inj (Option.some.inj h)
            exact .real _
          · split at h
            · obtain ⟨rfl, -⟩ := Prod.mk.inj (Option.some.inj h)
              exact .real _
            · exact hwhole h

theorem wellFormed_momentFrom? {w s r : List Char} {colon : Bool} {v : Value}
    (h : momentFrom? w colon s = some (v, r)) : v.WellFormed := by
  unfold momentFrom? at h
  obtain ⟨⟨tail, s'⟩, -, h⟩ := Option.bind_eq_some_iff.mp h
  obtain ⟨t, -, h⟩ := Option.bind_eq_some_iff.mp h
  obtain ⟨rfl, -⟩ := Prod.mk.inj (Option.some.inj h)
  exact .text _

theorem wellFormed_numberOrMoment? {w rest r : List Char} {v : Value}
    (h : numberOrMoment? w rest = some (v, r)) : v.WellFormed := by
  unfold numberOrMoment? at h
  split at h
  · exact wellFormed_momentFrom? h
  · split at h
    · exact wellFormed_momentFrom? h
    · exact wellFormed_number? h

theorem wellFormed_wordValue? {w rest r : List Char} {v : Value}
    (h : wordValue? w rest = some (v, r)) : v.WellFormed := by
  unfold wordValue? at h
  split at h
  · obtain ⟨rfl, -⟩ := Prod.mk.inj (Option.some.inj h)
    exact .bool true
  · split at h
    · obtain ⟨rfl, -⟩ := Prod.mk.inj (Option.some.inj h)
      exact .bool false
    · split at h
      · exact wellFormed_numberOrMoment? h
      · split at h
        · split at h
          · exact wellFormed_numberOrMoment? h
          · nomatch h
        · nomatch h

/-! ## Tables of one header -/

/-- All values of an item are well formed; a name may still occur twice. -/
inductive Item.WellFormed : Item → Prop
  | value {v : Value} (h : v.WellFormed) : WellFormed (.value v)
  | dotted {fs : List (String × Item)} (fields : ∀ f ∈ fs, WellFormed f.2) : WellFormed (.dotted fs)

/-- Fields that are all well formed by themselves. -/
def FieldsWellFormed (fs : List (String × Item)) : Prop :=
  ∀ f ∈ fs, f.2.WellFormed

theorem FieldsWellFormed.append {fs : List (String × Item)} (h : FieldsWellFormed fs) (k : String)
    {i : Item} (hi : i.WellFormed) : FieldsWellFormed (fs ++ [(k, i)]) := by
  intro f hf
  rcases List.mem_append.mp hf with hf | hf
  · exact h f hf
  · rw [List.mem_singleton.mp hf]
    exact hi

theorem FieldsWellFormed.addKey {v : Value} (hv : v.WellFormed) {ks : List String}
    {fs fs' : List (String × Item)} (hfs : FieldsWellFormed fs)
    (h : Toml.addKey fs v ks = some fs') : FieldsWellFormed fs' := by
  induction ks generalizing fs fs' with
  | nil =>
      unfold Toml.addKey at h
      nomatch h
  | cons k ks ih =>
      cases ks with
      | nil =>
          unfold Toml.addKey at h
          rw [← Option.some.inj h]
          exact hfs.append k (.value hv)
      | cons k' ks =>
          unfold Toml.addKey at h
          split at h
          · rename_i before name inner after hspan
            have hall : before ++ (name, .dotted inner) :: after = fs := by
              rw [List.span_eq_takeWhile_dropWhile] at hspan
              rw [← (Prod.mk.inj hspan).1, ← (Prod.mk.inj hspan).2, List.takeWhile_append_dropWhile]
            obtain ⟨inner', hinner', rfl⟩ := Option.map_eq_some_iff.mp h
            have hdotted := hfs (name, .dotted inner)
              (hall ▸ List.mem_append_right _ List.mem_cons_self)
            have hinner : FieldsWellFormed inner := by
              cases hdotted with
              | dotted fields => exact fields
            intro f hf
            rcases List.mem_append.mp hf with hf | hf
            · exact hfs f (hall ▸ List.mem_append_left _ hf)
            · rcases List.mem_cons.mp hf with rfl | hf
              · exact .dotted (ih hinner hinner')
              · exact hfs f (hall ▸ List.mem_append_right _ (List.mem_cons_of_mem _ hf))
          · nomatch h
          · obtain ⟨inner', hinner', rfl⟩ := Option.map_eq_some_iff.mp h
            exact hfs.append k (.dotted (ih (fun f hf => absurd hf List.not_mem_nil) hinner'))

mutual

theorem wellFormed_closeItem : ∀ {i : Item} {v : Value}, i.WellFormed → closeItem i = some v →
    v.WellFormed
  | .value w, v, hi, h => by
      rw [closeItem] at h
      rw [← Option.some.inj h]
      cases hi with
      | value hw => exact hw
  | .dotted fs, v, hi, h => by
      rw [closeItem] at h
      obtain ⟨out, hout, rfl⟩ := Option.map_eq_some_iff.mp h
      cases hi with
      | dotted fields => exact Value.wellFormed_table (sound_close fields hout)

/-- Closed fields have distinct names. -/
theorem sound_close : ∀ {fs : List (String × Item)} {out : Fields}, FieldsWellFormed fs →
    close fs = some out → out.Sound WellFormed
  | [], out, _, h => by
      rw [close] at h
      rw [← Option.some.inj h]
      exact .nil
  | (k, i) :: r, out, hfs, h => by
      rw [close] at h
      split at h
      · rename_i v fs hv hrest
        split at h
        · nomatch h
        · rename_i hnone
          rw [← Option.some.inj h]
          have hk : k ∉ fs.names := by
            refine Named.get?_eq_none_iff.mp ?_
            cases hget : fs.get? k with
            | none => rfl
            | some w => exact absurd (by rw [hget]; rfl) hnone
          exact .cons hk (wellFormed_closeItem (hfs (k, i) List.mem_cons_self) hv)
            (sound_close (fun f hf => hfs f (List.mem_cons_of_mem _ hf)) hrest)
      · nomatch h

end

/-! ## Values and lines -/

/-- What is read in `n` steps is well formed. -/
structure ReadsWellFormed (n : Nat) : Prop where
  value {s r : List Char} {v : Value} : value n s = some (v, r) → v.WellFormed
  list {s r : List Char} {vs : List Value} : list n s = some (vs, r) → ∀ v ∈ vs, v.WellFormed
  inlineTable {fs fs' : List (String × Item)} {s r : List Char} :
    inlineTable n fs s = some (fs', r) → FieldsWellFormed fs → FieldsWellFormed fs'

section
variable {n : Nat} {s r : List Char}

theorem ReadsWellFormed.value_succ (ih : ReadsWellFormed n) {v : Value}
    (h : Toml.value (n + 1) s = some (v, r)) : v.WellFormed := by
  unfold Toml.value at h
  split at h
  · obtain ⟨⟨t, rest⟩, ht, heq⟩ := Option.map_eq_some_iff.mp h
    obtain ⟨rfl, -⟩ := Prod.mk.inj heq
    exact .list (ih.list ht)
  · split at h
    · obtain ⟨rfl, -⟩ := Prod.mk.inj (Option.some.inj h)
      exact Value.wellFormed_table .nil
    · split at h
      · rename_i fs rest hfs
        obtain ⟨out, hout, heq⟩ := Option.map_eq_some_iff.mp h
        obtain ⟨rfl, -⟩ := Prod.mk.inj heq
        have hread := ih.inlineTable hfs fun f hf => absurd hf List.not_mem_nil
        exact Value.wellFormed_table (sound_close hread hout)
      · nomatch h
  · split at h
    · exact wellFormed_number? h
    · nomatch h
  · split at h
    · obtain ⟨rfl, -⟩ := Prod.mk.inj (Option.some.inj h)
      exact .text _
    · split at h
      · exact wellFormed_wordValue? h
      · nomatch h

theorem ReadsWellFormed.list_succ (ih : ReadsWellFormed n) {vs : List Value}
    (h : Toml.list (n + 1) s = some (vs, r)) : ∀ v ∈ vs, v.WellFormed := by
  unfold Toml.list at h
  split at h
  · nomatch h
  · obtain ⟨rfl, -⟩ := Prod.mk.inj (Option.some.inj h)
    exact fun v hv => absurd hv List.not_mem_nil
  · split at h
    · nomatch h
    · rename_i v rest hv
      split at h
      · obtain ⟨⟨t, rest⟩, ht, heq⟩ := Option.map_eq_some_iff.mp h
        obtain ⟨rfl, -⟩ := Prod.mk.inj heq
        intro w hw
        rcases List.mem_cons.mp hw with rfl | hw
        · exact ih.value hv
        · exact ih.list ht w hw
      · obtain ⟨rfl, -⟩ := Prod.mk.inj (Option.some.inj h)
        intro w hw
        rw [List.mem_singleton.mp hw]
        exact ih.value hv
      · nomatch h

theorem ReadsWellFormed.inlineTable_succ (ih : ReadsWellFormed n) {fs fs' : List (String × Item)}
    (h : Toml.inlineTable (n + 1) fs s = some (fs', r)) (hfs : FieldsWellFormed fs) :
    FieldsWellFormed fs' := by
  unfold Toml.inlineTable at h
  split at h
  · split at h
    · nomatch h
    · rename_i v rest hv
      split at h
      · nomatch h
      · rename_i added hadded
        have hall := hfs.addKey (ih.value hv) hadded
        split at h
        · obtain ⟨rfl, -⟩ := Prod.mk.inj (Option.some.inj h)
          exact hall
        · exact ih.inlineTable h hall
        · nomatch h
  · nomatch h

end

theorem readsWellFormed (n : Nat) : ReadsWellFormed n := by
  induction n with
  | zero =>
      refine ⟨?_, ?_, ?_⟩
      · intro s r v h
        unfold Toml.value at h
        nomatch h
      · intro s r vs h
        unfold Toml.list at h
        nomatch h
      · intro fs fs' s r h
        unfold Toml.inlineTable at h
        nomatch h
  | succ n ih => exact ⟨ih.value_succ, ih.list_succ, ih.inlineTable_succ⟩

theorem header?_fields {s r : List Char} {next : Section} (h : header? s = some (next, r)) :
    next.fields = [] := by
  unfold header? at h
  dsimp only at h
  split at h
  · split at h
    · obtain ⟨rfl, -⟩ := Prod.mk.inj (Option.some.inj h)
      rfl
    · nomatch h
  · nomatch h

theorem wellFormed_sections {n : Nat} {current : Section} {s : List Char} {ss : List Section}
    (hcurrent : FieldsWellFormed current.fields) (h : sections n current s = some ss) :
    ∀ t ∈ ss, FieldsWellFormed t.fields := by
  induction n generalizing current s ss with
  | zero =>
      unfold sections at h
      nomatch h
  | succ n ih =>
      unfold sections at h
      split at h
      · nomatch h
      · rw [← Option.some.inj h]
        intro t ht
        rw [List.mem_singleton.mp ht]
        exact hcurrent
      · split at h
        · rename_i next r hnext
          obtain ⟨rest, hrest, rfl⟩ := Option.map_eq_some_iff.mp h
          have hempty : FieldsWellFormed next.fields := by
            rw [header?_fields hnext]
            exact fun f hf => absurd hf List.not_mem_nil
          intro t ht
          rcases List.mem_cons.mp ht with rfl | ht
          · exact hcurrent
          · exact ih hempty hrest t ht
        · nomatch h
      · split at h
        · split at h
          · nomatch h
          · rename_i v r hv
            split at h
            · rename_i fs r' hfs hline
              exact @ih { current with fields := fs } r' ss
                (hcurrent.addKey ((readsWellFormed _).value hv) hfs) h
            · nomatch h
        · nomatch h

/-! ## The tree of sections -/

/-- In no table of the tree do two fields have one name. -/
inductive Node.WellFormed : Node → Prop
  | value {v : Value} (h : v.WellFormed) : WellFormed (.value v)
  | table {named : Bool} {fs : List (String × Node)} (names : (Named.names fs).Nodup)
      (values : ∀ f ∈ fs, WellFormed f.2) : WellFormed (.table named fs)
  | tables {items : List (List (String × Node))} (names : ∀ fs ∈ items, (Named.names fs).Nodup)
      (values : ∀ fs ∈ items, ∀ f ∈ fs, WellFormed f.2) : WellFormed (.tables items)

namespace Node.WellFormed

theorem of_sound {named : Bool} {fs : Named Node} (h : fs.Sound WellFormed) :
    WellFormed (.table named fs) :=
  .table h.names h.values

theorem of_items {items : List (List (String × Node))}
    (h : ∀ fs ∈ items, Named.Sound WellFormed fs) : WellFormed (.tables items) :=
  .tables (fun fs hfs => (h fs hfs).names) fun fs hfs => (h fs hfs).values

theorem items {items : List (List (String × Node))} (h : WellFormed (.tables items)) :
    ∀ fs ∈ items, Named.Sound WellFormed fs := by
  cases h with
  | tables names values => exact fun fs hfs => ⟨names fs hfs, values fs hfs⟩

theorem fields {named : Bool} {fs : List (String × Node)} (h : WellFormed (.table named fs)) :
    Named.Sound WellFormed fs := by
  cases h with
  | table names values => exact ⟨names, values⟩

end Node.WellFormed

/-- Fields keep their names as nodes. -/
theorem names_map_value (new : Fields) :
    Named.names (new.map fun (k, v) => (k, Node.value v)) = new.names := by
  unfold Named.names
  rw [List.map_map]
  rfl

theorem sound_join {fs fs' : Named Node} {new : Fields} (hfs : fs.Sound Node.WellFormed)
    (hnew : new.Sound Value.WellFormed) (h : join fs new = some fs') :
    fs'.Sound Node.WellFormed := by
  unfold join at h
  split at h
  · cases h
  · rename_i hfresh
    rw [← Option.some.inj h]
    have hnames := names_map_value new
    refine ⟨?_, ?_⟩
    · unfold Named.names at hnames ⊢
      rw [List.map_append, hnames]
      refine List.nodup_append.mpr ⟨hfs.names, hnew.names, ?_⟩
      rintro k hk _ hk' rfl
      obtain ⟨f, hf, rfl⟩ := List.mem_map.mp hk'
      refine hfresh (List.any_eq_true.mpr ⟨f, hf, ?_⟩)
      show (fs.get? f.1).isSome = true
      cases hget : fs.get? f.1 with
      | none => exact absurd hk (Named.get?_eq_none_iff.mp hget)
      | some x => rfl
    · intro f hf
      rcases List.mem_append.mp hf with hf | hf
      · exact hfs.values f hf
      · obtain ⟨g, hg, rfl⟩ := List.mem_map.mp hf
        exact .value (hnew.values g hg)

theorem wellFormed_define {array : Bool} {new : Fields} (hnew : new.Sound Value.WellFormed)
    {old : Option Node} (hold : ∀ x, old = some x → x.WellFormed) {x : Node}
    (h : define array new old = some x) : x.WellFormed := by
  unfold define at h
  split at h
  · obtain ⟨fs, hfs, rfl⟩ := Option.map_eq_some_iff.mp h
    have hsound := sound_join .nil hnew hfs
    split
    · refine .of_items ?_
      intro gs hgs
      rw [List.mem_singleton.mp hgs]
      exact hsound
    · exact .of_sound hsound
  · split at h
    · nomatch h
    · obtain ⟨fs, hfs, rfl⟩ := Option.map_eq_some_iff.mp h
      exact .of_sound (sound_join (hold _ rfl).fields hnew hfs)
  · split at h
    · obtain ⟨fs, hfs, rfl⟩ := Option.map_eq_some_iff.mp h
      refine .of_items ?_
      intro gs hgs
      rcases List.mem_append.mp hgs with hgs | hgs
      · exact (hold _ rfl).items gs hgs
      · rw [List.mem_singleton.mp hgs]
        exact sound_join .nil hnew hfs
    · nomatch h
  · nomatch h
  · nomatch h

theorem sound_insert {array : Bool} {new : Fields} (hnew : new.Sound Value.WellFormed)
    {path : List String} {fs fs' : Named Node} (hfs : fs.Sound Node.WellFormed)
    (h : insert array new fs path = some fs') : fs'.Sound Node.WellFormed := by
  induction path generalizing fs fs' with
  | nil =>
      unfold insert at h
      exact sound_join hfs hnew h
  | cons k ks ih =>
      cases ks with
      | nil =>
          unfold insert at h
          obtain ⟨x, hx, rfl⟩ := Option.map_eq_some_iff.mp h
          exact hfs.put k (wellFormed_define hnew (fun y hy => hfs.get? hy) hx)
      | cons k' ks =>
          unfold insert at h
          split at h
          · obtain ⟨inner, hinner, rfl⟩ := Option.map_eq_some_iff.mp h
            exact hfs.put k (.of_sound (ih .nil hinner))
          · rename_i named inner hget
            obtain ⟨inner', hinner', rfl⟩ := Option.map_eq_some_iff.mp h
            exact hfs.put k (.of_sound (ih (hfs.get? hget).fields hinner'))
          · rename_i items hget
            split at h
            · nomatch h
            · rename_i last hlast
              obtain ⟨last', hlast', rfl⟩ := Option.map_eq_some_iff.mp h
              have hitems := (hfs.get? hget).items
              refine hfs.put k (.of_items ?_)
              intro gs hgs
              rcases List.mem_append.mp hgs with hgs | hgs
              · exact hitems gs (List.dropLast_subset _ hgs)
              · rw [List.mem_singleton.mp hgs]
                exact ih (hitems last (List.mem_of_getLast? hlast)) hlast'
          · nomatch h

theorem names_fieldsOf (fs : List (String × Node)) : (fieldsOf fs).names = Named.names fs := by
  induction fs with
  | nil => rfl
  | cons f r ih =>
      rw [fieldsOf, Named.names, List.map_cons]
      exact congrArg (f.1 :: ·) ih

mutual

theorem wellFormed_toValue : ∀ {x : Node}, x.WellFormed → x.toValue.WellFormed
  | .value v, h => by
      rw [Node.toValue]
      cases h with
      | value hv => exact hv
  | .table named fs, h => by
      rw [Node.toValue]
      exact Value.wellFormed_table (sound_fieldsOf h.fields)
  | .tables items, h => by
      rw [Node.toValue]
      exact .list (wellFormed_itemsOf h.items)

theorem sound_fieldsOf : ∀ {fs : List (String × Node)}, Named.Sound Node.WellFormed fs →
    (fieldsOf fs).Sound Value.WellFormed
  | [], _ => by
      rw [fieldsOf]
      exact .nil
  | (k, x) :: r, h => by
      have hk : k ∉ (fieldsOf r).names := by
        rw [names_fieldsOf]
        exact (List.nodup_cons.mp h.names).1
      rw [fieldsOf]
      exact .cons hk (wellFormed_toValue (h.values (k, x) List.mem_cons_self))
        (sound_fieldsOf h.tail)

theorem wellFormed_itemsOf : ∀ {items : List (List (String × Node))},
    (∀ fs ∈ items, Named.Sound Node.WellFormed fs) → ∀ v ∈ itemsOf items, v.WellFormed
  | [], _ => by
      rw [itemsOf]
      exact fun v hv => absurd hv List.not_mem_nil
  | fs :: r, h => by
      rw [itemsOf]
      intro v hv
      rcases List.mem_cons.mp hv with rfl | hv
      · exact Value.wellFormed_table (sound_fieldsOf (h fs List.mem_cons_self))
      · exact wellFormed_itemsOf (fun gs hgs => h gs (List.mem_cons_of_mem _ hgs)) v hv

end

/-- The sections of a document go into the tree one by one. -/
theorem sound_tree? {ss : List Section} (hss : ∀ s ∈ ss, FieldsWellFormed s.fields)
    {t : Named Node} (h : tree? ss = some t) : t.Sound Node.WellFormed := by
  have hfold : ∀ (ss : List Section) (start : Option (Named Node)),
      (∀ s ∈ ss, FieldsWellFormed s.fields) → (∀ u, start = some u → u.Sound Node.WellFormed) →
      ss.foldl (fun t s => t.bind fun t => (close s.fields).bind fun fs =>
        insert s.array fs t s.path) start = some t → t.Sound Node.WellFormed := by
    intro ss
    induction ss with
    | nil => exact fun start _ hstart h => hstart t h
    | cons s ss ih =>
        intro start hss hstart h
        refine ih _ (fun s hs => hss s (List.mem_cons_of_mem _ hs)) ?_ h
        intro u hu
        obtain ⟨v, hv, hu⟩ := Option.bind_eq_some_iff.mp hu
        obtain ⟨fs, hfs, hu⟩ := Option.bind_eq_some_iff.mp hu
        exact sound_insert (sound_close (hss s List.mem_cons_self) hfs) (hstart v hv) hu
  refine hfold ss (some []) hss ?_ h
  intro u hu
  rw [← Option.some.inj hu]
  exact .nil

theorem wellFormed_parse? {s : List Char} {v : Value} (h : parse? s = some v) : v.WellFormed := by
  unfold parse? at h
  dsimp only at h
  split at h
  · rename_i ss hss
    obtain ⟨t, ht, rfl⟩ := Option.map_eq_some_iff.mp h
    have hfields := wellFormed_sections (fun f hf => absurd hf List.not_mem_nil) hss
    exact Value.wellFormed_table (sound_fieldsOf (sound_tree? hfields ht))
  · nomatch h

end CertRotation.Document.Toml
