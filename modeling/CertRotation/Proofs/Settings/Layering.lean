/-
# `Proofs.Settings.Layering` — layers, looked at one setting at a time

Layers are laid over each other as documents, before anything is converted.  What becomes of a single
setting follows from the way that its key names:

    the file over nothing is the file                              (`addLayer_fields`)
    a variable sets its own setting and leaves the others           (`valueIn_place`)
    the last variable counts, and where there is none, what is below (`valueIn_addLayer`)

The first needs that the file repeats no name, which all readers see to; the second that no setting
outside the sections is called like one of them.
-/
import CertRotation.Proofs.Document.Json
import CertRotation.Proofs.Document.Toml
import CertRotation.Proofs.Document.Yaml
import CertRotation.Settings.Effective

namespace CertRotation.Settings

open Document

/-! ## The file -/

/-- Fields whose names mean themselves and are new go behind those that are there. -/
theorem addLayer_append {fs acc : Fields} (hfs : fs.Sound Value.WellFormed)
    (hplain : ∀ f ∈ fs, wayOf f.1 = [.field f.1]) (hnew : ∀ k ∈ fs.names, k ∉ acc.names) :
    addLayer (.table acc) fs = .table (acc ++ fs) := by
  induction fs generalizing acc with
  | nil =>
      rw [List.append_nil]
      rfl
  | cons f r ih =>
      obtain ⟨k, v⟩ := f
      have hk : k ∉ acc.names := hnew k List.mem_cons_self
      have hnot : k ∉ Named.names r := (List.nodup_cons.mp hfs.names).1
      have hfirst : place v (wayOf k) (.table acc) = .table (acc ++ [(k, v)]) := by
        rw [hplain (k, v) List.mem_cons_self]
        show Value.table (acc.put k (v.overlay (acc.get? k))) = _
        rw [Named.get?_eq_none_iff.mpr hk, (hfs.values (k, v) List.mem_cons_self).overlay_none,
          Named.put_of_not_mem hk]
      have hafter : ∀ j ∈ Named.names r, j ∉ Named.names (acc ++ [(k, v)]) := by
        intro j hj hmem
        rw [Named.names, List.map_append] at hmem
        rcases List.mem_append.mp hmem with hmem | hmem
        · exact hnew j (List.mem_cons_of_mem _ hj) hmem
        · have hjk : j = k := List.mem_singleton.mp hmem
          exact hnot (hjk ▸ hj)
      show addLayer (place v (wayOf k) (.table acc)) r = _
      rw [hfirst, ih hfs.tail (fun f hf => hplain f (List.mem_cons_of_mem _ hf)) hafter,
        List.append_assoc]
      rfl

/-- The layer of a file, laid over nothing, is the file's table. -/
theorem addLayer_fields {doc : Value} (hdoc : doc.WellFormed)
    (hplain : ∀ f ∈ doc.fields, wayOf f.1 = [.field f.1]) :
    addLayer (.table []) (layerOf doc) = .table doc.fields :=
  addLayer_append hdoc.fields hplain fun _ _ => List.not_mem_nil

/-- What is read from the settings file is well formed, in each of the formats. -/
theorem wellFormed_fileDocument {files : FileTree} {doc : Value}
    (h : fileDocument files = .ok doc) : doc.WellFormed := by
  unfold fileDocument at h
  split at h
  · rw [← Except.ok.inj h]
    exact Value.wellFormed_table .nil
  · rename_i data parse hfound
    split at h
    · rw [← Except.ok.inj h]
      exact Value.wellFormed_table .nil
    · split at h
      · rename_i text hdecoded _ parsed hparsed
        rw [← Except.ok.inj h]
        unfold findFile? at hfound
        split at hfound
        · nomatch hfound
        · obtain ⟨⟨ending, read⟩, hformat, hread⟩ := List.exists_of_findSome?_eq_some hfound
          obtain ⟨_, -, heq⟩ := Option.map_eq_some_iff.mp hread
          obtain ⟨-, rfl⟩ := Prod.mk.inj heq
          simp only [formats, List.mem_cons, Prod.mk.injEq, List.not_mem_nil, or_false] at hformat
          rcases hformat with ⟨-, rfl⟩ | ⟨-, rfl⟩ | ⟨-, rfl⟩ | ⟨-, rfl⟩
          · exact Toml.wellFormed_parse? hparsed
          · exact Json.wellFormed_parse? hparsed
          · exact Yaml.wellFormed_parse? hparsed
          · exact Yaml.wellFormed_parse? hparsed
      · nomatch h

/-! ## The schema -/

theorem wayOf_top : ∀ p ∈ places, p.1 = "" → wayOf (keyOf p) = [.field p.2] := by
  decide +kernel

theorem wayOf_section : ∀ p ∈ places, p.1 ≠ "" →
    wayOf (keyOf p) = [.field p.1, .field p.2] := by
  decide +kernel

/-- No setting outside the sections is called like a section. -/
theorem name_of_top : ∀ p ∈ places, p.1 = "" → p.2 ∉ sectionNames := by
  decide +kernel

theorem group_mem : ∀ p ∈ places, p.1 ≠ "" → p.1 ∈ sectionNames := by
  decide +kernel

/-- Different settings have different keys. -/
theorem keyOf_inj : ∀ p ∈ places, ∀ q ∈ places, keyOf p = keyOf q → p = q := by
  decide +kernel

/-! ## Variables -/

/-- The field that a text puts into a section, or at the top. -/
theorem place_top {p : Place} (hp : p ∈ places) (htop : p.1 = "") (s : String) (d : Value) :
    place (.text s) (wayOf (keyOf p)) d = .table (d.fields.put p.2 (.text s)) := by
  rw [wayOf_top p hp htop]
  rfl

theorem place_section {p : Place} (hp : p ∈ places) (hgroup : p.1 ≠ "") (s : String) (d : Value) :
    place (.text s) (wayOf (keyOf p)) d =
      .table (d.fields.put p.1
        (.table (((d.fields.get? p.1).getD .null).fields.put p.2 (.text s)))) := by
  rw [wayOf_section p hp hgroup]
  rfl

theorem valueIn_top {p : Place} (h : p.1 = "") (d : Value) : valueIn d p = d.fields.get? p.2 :=
  if_pos h

theorem valueIn_section {p : Place} (h : p.1 ≠ "") (d : Value) :
    valueIn d p = (d.fields.get? p.1).bind fun s => s.fields.get? p.2 :=
  if_neg h

/-- A variable sets its own setting and no other, whether or not the section was there. -/
theorem valueIn_place {p q : Place} (hp : p ∈ places) (hq : q ∈ places) (s : String) (d : Value) :
    valueIn (place (.text s) (wayOf (keyOf p)) d) q =
      if q = p then some (.text s) else valueIn d q := by
  by_cases htop : p.1 = ""
  · rw [place_top hp htop]
    have hname : p.2 ∉ sectionNames := name_of_top p hp htop
    by_cases hqtop : q.1 = ""
    · rw [valueIn_top hqtop, valueIn_top hqtop]
      show (d.fields.put p.2 (.text s)).get? q.2 = _
      rw [Named.get?_put]
      refine if_congr ⟨fun h => Prod.ext (hqtop.trans htop.symm) h, fun h => ?_⟩ rfl rfl
      rw [h]
    · have hne : q ≠ p := fun h => hqtop (h ▸ htop)
      have hgroup : q.1 ≠ p.2 := fun h => hname (h ▸ group_mem q hq hqtop)
      rw [if_neg hne, valueIn_section hqtop, valueIn_section hqtop]
      show ((d.fields.put p.2 (.text s)).get? q.1).bind _ = _
      rw [Named.get?_put, if_neg hgroup]
  · rw [place_section hp htop]
    by_cases hqtop : q.1 = ""
    · have hne : q ≠ p := fun h => htop (h ▸ hqtop)
      have hgroup : q.2 ≠ p.1 := fun h => name_of_top q hq hqtop (h ▸ group_mem p hp htop)
      rw [if_neg hne, valueIn_top hqtop, valueIn_top hqtop]
      show (d.fields.put p.1 _).get? q.2 = _
      rw [Named.get?_put, if_neg hgroup]
    · rw [valueIn_section hqtop, valueIn_section hqtop]
      show ((d.fields.put p.1 _).get? q.1).bind _ = _
      rw [Named.get?_put]
      by_cases hgroup : q.1 = p.1
      · rw [if_pos hgroup, Option.bind_some, hgroup]
        show (Named.put _ p.2 (Value.text s)).get? q.2 = _
        rw [Named.get?_put]
        by_cases hname : q.2 = p.2
        · rw [if_pos hname, if_pos (Prod.ext hgroup hname)]
        · rw [if_neg hname, if_neg fun h => hname (congrArg Prod.snd h)]
          cases d.fields.get? p.1 with
          | none => rfl
          | some v => rfl
      · rw [if_neg hgroup, if_neg fun h => hgroup (congrArg Prod.fst h)]

/-- The variables of a layer name settings, and their values are texts. -/
def OfVariables (l : Layer) : Prop :=
  ∀ x ∈ l, ∃ p ∈ places, ∃ s, x = (keyOf p, .text s)

theorem ofVariables_layerOfVariables {env : Environment} (h : NamesSettings env) :
    OfVariables (layerOfVariables env) := by
  intro x hx
  obtain ⟨⟨name, value⟩, hmem, hx⟩ := List.mem_filterMap.mp hx
  obtain ⟨k, hk, rfl⟩ := Option.map_eq_some_iff.mp hx
  obtain ⟨p, hp, hkey⟩ := List.mem_map.mp (h (name, value) hmem k hk)
  exact ⟨p, hp, value, by rw [hkey]⟩

/-- A setting has the value of the last variable that names it, and where there is none, the one
below. -/
theorem valueIn_addLayer {l : Layer} (hl : OfVariables l) {q : Place} (hq : q ∈ places) (d : Value) :
    valueIn (addLayer d l) q = (l.reverse.lookup (keyOf q)).or (valueIn d q) := by
  induction l generalizing d with
  | nil => rfl
  | cons x l ih =>
      obtain ⟨p, hp, s, rfl⟩ := hl x List.mem_cons_self
      show valueIn (addLayer (place (.text s) (wayOf (keyOf p)) d) l) q = _
      rw [ih (fun x hx => hl x (List.mem_cons_of_mem _ hx)), valueIn_place hp hq, List.reverse_cons,
        List.lookup_append, Option.or_assoc]
      congr 1
      by_cases hqp : q = p
      · rw [if_pos hqp, hqp, List.lookup_cons_self]
        rfl
      · have hkey : keyOf q ≠ keyOf p := fun h => hqp (keyOf_inj q hq p hp h)
        rw [if_neg hqp, List.lookup_cons, beq_false_of_ne hkey]
        rfl

/-! ## All layers -/

/-- A document whose sections are tables. -/
structure Laid (d : Value) : Prop where
  table : ∃ fs, d = .table fs
  sections : ∀ g ∈ sectionNames, ∀ v, d.fields.get? g = some v → ∃ fs, v = .table fs

theorem Laid.place {d : Value} (h : Laid d) {p : Place} (hp : p ∈ places) (s : String) :
    Laid (place (.text s) (wayOf (keyOf p)) d) := by
  by_cases htop : p.1 = ""
  · rw [place_top hp htop]
    refine ⟨⟨_, rfl⟩, ?_⟩
    intro g hg v hv
    have hne : g ≠ p.2 := fun he => name_of_top p hp htop (he ▸ hg)
    have hget : (d.fields.put p.2 (.text s)).get? g = some v := hv
    rw [Named.get?_put, if_neg hne] at hget
    exact h.sections g hg v hget
  · rw [place_section hp htop]
    refine ⟨⟨_, rfl⟩, ?_⟩
    intro g hg v hv
    have hget : (d.fields.put p.1 _).get? g = some v := hv
    rw [Named.get?_put] at hget
    by_cases hgroup : g = p.1
    · rw [if_pos hgroup] at hget
      exact ⟨_, (Option.some.inj hget).symm⟩
    · rw [if_neg hgroup] at hget
      exact h.sections g hg v hget

theorem Laid.addLayer {l : Layer} (hl : OfVariables l) {d : Value} (h : Laid d) :
    Laid (addLayer d l) := by
  induction l generalizing d with
  | nil => exact h
  | cons x l ih =>
      obtain ⟨p, hp, s, rfl⟩ := hl x List.mem_cons_self
      exact ih (fun x hx => hl x (List.mem_cons_of_mem _ hx)) (h.place hp s)

/-- The sections of a document are those of the values in it. -/
theorem sections_eq {d : Value} (h : Laid d) : sections d = .ok (sectionsWith (valueIn d)) := by
  have hsection (g : String) (hg : g ∈ sectionNames) (hne : g ≠ "") (names : List String) :
      sectionOf d.fields g names =
        .ok fun name => (valueIn d (g, name)).map fun v => ⟨keyOf (g, name), v⟩ := by
    have hkey (name : String) : keyOf (g, name) = g ++ "." ++ name := if_neg hne
    unfold sectionOf
    cases hget : d.fields.get? g with
    | none =>
        refine congrArg Except.ok (funext fun name => ?_)
        rw [valueIn_section hne, hget]
        rfl
    | some v =>
        obtain ⟨fs, rfl⟩ := h.sections g hg v hget
        refine congrArg Except.ok (funext fun name => ?_)
        rw [valueIn_section hne, hget, hkey]
        rfl
  have htop : tableEntries "" d.fields =
      fun name => (valueIn d ("", name)).map fun v => ⟨keyOf ("", name), v⟩ := by
    funext name
    unfold tableEntries
    rw [String.empty_append]
    rfl
  unfold sections
  simp only [hsection "identity" (by decide) (by decide), hsection "refresh" (by decide) (by decide),
    hsection "server" (by decide) (by decide), hsection "client" (by decide) (by decide),
    hsection "metrics" (by decide) (by decide), htop]
  rfl

section
variable {doc : Value} {env : Environment}

/-- Each setting of the layered document has its effective value. -/
theorem valueIn_ofLayers (hdoc : doc.WellFormed) (hfile : HasSections doc)
    (henv : NamesSettings env) {p : Place} (hp : p ∈ places) :
    valueIn (ofLayers [layerOf doc, layerOfVariables env]) p = effective doc env p := by
  show valueIn (addLayer (addLayer (.table []) (layerOf doc)) (layerOfVariables env)) p = _
  rw [addLayer_fields hdoc hfile.plain, valueIn_addLayer (ofVariables_layerOfVariables henv) hp]
  rfl

theorem laid_ofLayers (hdoc : doc.WellFormed) (hfile : HasSections doc) (henv : NamesSettings env) :
    Laid (ofLayers [layerOf doc, layerOfVariables env]) := by
  show Laid (addLayer (addLayer (.table []) (layerOf doc)) (layerOfVariables env))
  rw [addLayer_fields hdoc hfile.plain]
  exact Laid.addLayer (ofVariables_layerOfVariables henv) ⟨⟨_, rfl⟩, hfile.sections⟩

end

end CertRotation.Settings
