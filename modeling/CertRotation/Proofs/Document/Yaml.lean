/-
# `Proofs.Document.Yaml` — what is read from YAML is well formed

The nine functions that read nodes call each other with one step less, so all of them are looked at
together.  An alias gives back what an anchor named before, so the values that a reader has stored
must be well formed too: `Gives p x` says this of the reader behind `x` along with `p` of its value.
-/
import CertRotation.Document.Yaml
import CertRotation.Proofs.Document.Value

namespace CertRotation.Document.Yaml

open Value (WellFormed)

/-! ## Scalars -/

theorem wellFormed_real? {s : List Char} {v : Value} (h : real? s = some v) : v.WellFormed := by
  obtain ⟨x, -, rfl⟩ := Option.map_eq_some_iff.mp h
  exact .real x

theorem wellFormed_getD {o : Option Value} (ho : ∀ v, o = some v → v.WellFormed) {d : Value}
    (hd : d.WellFormed) : (o.getD d).WellFormed := by
  cases o with
  | none => exact hd
  | some v => exact ho v rfl

theorem wellFormed_plainValue? {s : List Char} {v : Value} (h : plainValue? s = some v) :
    v.WellFormed := by
  unfold plainValue? at h
  split at h
  · nomatch h
  · split at h
    · rw [← Option.some.inj h]
      exact .int _
    · split at h
      · rw [← Option.some.inj h]
        exact .null
      · split at h
        · rw [← Option.some.inj h]
          exact .bool true
        · split at h
          · rw [← Option.some.inj h]
            exact .bool false
          · rw [← Option.some.inj h]
            exact wellFormed_getD (fun _ hreal => wellFormed_real? hreal) (.text _)

theorem wellFormed_typedValue? {type : String} {s : List Char} {v : Value}
    (h : typedValue? type s = some v) : v.WellFormed := by
  unfold typedValue? at h
  split at h
  · rw [← Option.some.inj h]
    split
    · exact .bool true
    · split
      · exact .bool false
      · exact .null
  · rw [← Option.some.inj h]
    refine wellFormed_getD ?_ .null
    intro w hw
    obtain ⟨i, -, rfl⟩ := Option.map_eq_some_iff.mp hw
    exact .int i
  · split at h
    · nomatch h
    · rw [← Option.some.inj h]
      exact wellFormed_getD (fun _ hreal => wellFormed_real? hreal) .null
  · rw [← Option.some.inj h]
    exact .null
  · rw [← Option.some.inj h]
    exact .text _

theorem wellFormed_scalarValue? {tag : Option (String × String)} {plain : Bool} {s : String}
    {v : Value} (h : scalarValue? tag plain s = some v) : v.WellFormed := by
  unfold scalarValue? at h
  split at h
  · rw [← Option.some.inj h]
    exact .text s
  · split at h
    · exact wellFormed_plainValue? h
    · exact wellFormed_typedValue? h
    · rw [← Option.some.inj h]
      exact .text s

/-! ## Readers -/

/-- What the anchors of a reader name is well formed. -/
def Reader.Sound (r : Reader) : Prop :=
  ∀ x ∈ r.values, x.2.WellFormed

namespace Reader

variable {r : Reader}

theorem Sound.skip (h : r.Sound) : r.skip.Sound := h

theorem Sound.setAnchor (h : r.Sound) (id : Option Nat) {v : Value} (hv : v.WellFormed) :
    (r.setAnchor id v).Sound := by
  cases id with
  | none => exact h
  | some i =>
      intro x hx
      rcases List.mem_cons.mp hx with rfl | hx
      · exact hv
      · exact h x hx

theorem Sound.alias? (h : r.Sound) {name : String} {v : Value} (hv : r.alias? name = some v) :
    v.WellFormed := by
  obtain ⟨id, -, rfl⟩ := Option.map_eq_some_iff.mp hv
  refine wellFormed_getD ?_ .null
  intro w hw
  obtain ⟨l, l', hvalues, -⟩ := List.lookup_eq_some_iff.mp hw
  exact h (id, w) (hvalues ▸ List.mem_append_right _ List.mem_cons_self)

theorem Sound.properties (h : r.Sound) : (Properties.read r).2.Sound := by
  unfold Properties.read
  dsimp only
  split
  · split
    · exact h
    · exact h
  · split
    · exact h
    · exact h
  · exact h

end Reader

theorem sound_putField {fs : Fields} (hfs : fs.Sound WellFormed) (k : Value) {v : Value}
    (hv : v.WellFormed) : (putField fs k v).Sound WellFormed := by
  unfold putField
  split
  · exact hfs.put _ hv
  · exact hfs

/-! ## Nodes -/

/-- If something is read, it has a property, and the reader behind it is sound. -/
def Gives {α : Type} (p : α → Prop) (x : Read α) : Prop :=
  ∀ a r, x = some (a, r) → p a ∧ r.Sound

section
variable {α β : Type} {p : α → Prop} {q : β → Prop}

theorem Gives.nothing : Gives p none := by
  intro a r h
  nomatch h

theorem Gives.value {a : α} (ha : p a) {r : Reader} (hr : r.Sound) : Gives p (some (a, r)) := by
  intro b r' h
  obtain ⟨rfl, rfl⟩ := Prod.mk.inj (Option.some.inj h)
  exact ⟨ha, hr⟩

theorem Gives.map {x : Read α} (h : Gives p x) {f : α → β} (hf : ∀ a, p a → q (f a)) :
    Gives q (x.map fun y => (f y.1, y.2)) := by
  intro b r hx
  obtain ⟨⟨a, r'⟩, hread, heq⟩ := Option.map_eq_some_iff.mp hx
  obtain ⟨rfl, rfl⟩ := Prod.mk.inj heq
  obtain ⟨ha, hr⟩ := h a r' hread
  exact ⟨hf a ha, hr⟩

/-- A value that does not come with a reader of its own. -/
theorem Gives.scalar {x : Option α} (h : ∀ a, x = some a → p a) {r : Reader} (hr : r.Sound) :
    Gives p (x.map fun a => (a, r)) := by
  intro b r' hx
  obtain ⟨a, ha, heq⟩ := Option.map_eq_some_iff.mp hx
  obtain ⟨rfl, rfl⟩ := Prod.mk.inj heq
  exact ⟨h a ha, hr⟩

end

/-- Fields are read behind a value. -/
theorem Gives.behind {x : Read Value} (h : Gives WellFormed x) {f : Value → Reader → Read Fields}
    (hf : ∀ v r, v.WellFormed → r.Sound → Gives (Named.Sound WellFormed) (f v r)) :
    Gives (Named.Sound WellFormed) (match x with
      | some (v, r) => f v r
      | none => none) := by
  split
  · rename_i v r
    obtain ⟨hv, hr⟩ := h v r rfl
    exact hf v r hv hr
  · exact .nothing

/-- All items of a list are well formed. -/
def AllWellFormed (vs : List Value) : Prop :=
  ∀ v ∈ vs, v.WellFormed

theorem AllWellFormed.nil : AllWellFormed [] :=
  fun _ h => absurd h List.not_mem_nil

theorem AllWellFormed.cons {v : Value} (hv : v.WellFormed) {vs : List Value}
    (h : AllWellFormed vs) : AllWellFormed (v :: vs) := by
  intro w hw
  rcases List.mem_cons.mp hw with rfl | hw
  · exact hv
  · exact h w hw

/-- Every function that reads gives what is well formed, in `n` steps. -/
structure ReadsWellFormed (n : Nat) : Prop where
  node (block indentless : Bool) {r : Reader} : r.Sound → Gives WellFormed (node n block indentless r)
  content (block indentless : Bool) (p : Properties) {r : Reader} :
    r.Sound → Gives WellFormed (content n block indentless p r)
  blockSequence {r : Reader} : r.Sound → Gives AllWellFormed (blockSequence n r)
  indentlessSequence {r : Reader} : r.Sound → Gives AllWellFormed (indentlessSequence n r)
  blockMapping {fs : Fields} {r : Reader} :
    fs.Sound WellFormed → r.Sound → Gives (Named.Sound WellFormed) (blockMapping n fs r)
  flowSequence (first : Bool) {r : Reader} : r.Sound → Gives AllWellFormed (flowSequence n first r)
  flowMapping (first : Bool) {fs : Fields} {r : Reader} :
    fs.Sound WellFormed → r.Sound → Gives (Named.Sound WellFormed) (flowMapping n first fs r)
  pairKey {r : Reader} : r.Sound → Gives WellFormed (pairKey n r)
  afterColon (ends : List Token) (block : Bool) {r : Reader} :
    r.Sound → Gives WellFormed (afterColon n ends block r)
  optional (ends : List Token) (block indentless : Bool) {r : Reader} :
    r.Sound → Gives WellFormed (optional n ends block indentless r)

namespace ReadsWellFormed

variable {n : Nat} {r : Reader}

theorem node_succ (ih : ReadsWellFormed n) (block indentless : Bool) (hr : r.Sound) :
    Gives WellFormed (Yaml.node (n + 1) block indentless r) := by
  unfold Yaml.node
  split
  · exact Gives.scalar (fun v hv => hr.alias? hv) hr.skip
  · intro v r' h
    obtain ⟨⟨w, r''⟩, hread, heq⟩ := Option.map_eq_some_iff.mp h
    obtain ⟨rfl, rfl⟩ := Prod.mk.inj heq
    obtain ⟨hw, hr'⟩ := ih.content block indentless _ hr.properties w r'' hread
    exact ⟨hw, hr'.setAnchor _ hw⟩

theorem content_succ (ih : ReadsWellFormed n) (block indentless : Bool) (p : Properties)
    (hr : r.Sound) : Gives WellFormed (Yaml.content (n + 1) block indentless p r) := by
  unfold Yaml.content
  dsimp only
  split
  · exact Gives.scalar (fun v hv => wellFormed_scalarValue? hv) hr.skip
  · exact (ih.flowSequence true hr.skip).map fun vs hvs => .list hvs
  · exact (ih.flowMapping true .nil hr.skip).map fun fs hfs => Value.wellFormed_table hfs
  · exact (ih.blockSequence hr.skip).map fun vs hvs => .list hvs
  · exact (ih.blockMapping .nil hr.skip).map fun fs hfs => Value.wellFormed_table hfs
  · split
    · exact (ih.indentlessSequence hr).map fun vs hvs => .list hvs
    · split
      · exact Gives.scalar (fun v hv => wellFormed_scalarValue? hv) hr
      · exact .nothing

theorem blockSequence_succ (ih : ReadsWellFormed n) (hr : r.Sound) :
    Gives AllWellFormed (Yaml.blockSequence (n + 1) r) := by
  unfold Yaml.blockSequence
  split
  · exact .value .nil hr.skip
  · split
    · rename_i v r' hread
      obtain ⟨hv, hr'⟩ := ih.optional _ true false hr.skip v r' hread
      exact (ih.blockSequence hr').map fun vs hvs => hvs.cons hv
    · exact .nothing
  · exact .nothing

theorem indentlessSequence_succ (ih : ReadsWellFormed n) (hr : r.Sound) :
    Gives AllWellFormed (Yaml.indentlessSequence (n + 1) r) := by
  unfold Yaml.indentlessSequence
  split
  · split
    · rename_i v r' hread
      obtain ⟨hv, hr'⟩ := ih.optional _ true false hr.skip v r' hread
      exact (ih.indentlessSequence hr').map fun vs hvs => hvs.cons hv
    · exact .nothing
  · exact .value .nil hr

theorem blockMapping_succ (ih : ReadsWellFormed n) {fs : Fields} (hfs : fs.Sound WellFormed)
    (hr : r.Sound) : Gives (Named.Sound WellFormed) (Yaml.blockMapping (n + 1) fs r) := by
  have hentry (k v : Value) (r : Reader) (hv : v.WellFormed) (hr : r.Sound) :
      Gives (Named.Sound WellFormed) (Yaml.blockMapping n (putField fs k v) r) :=
    ih.blockMapping (sound_putField hfs k hv) hr
  unfold Yaml.blockMapping
  dsimp only
  split
  · exact .value hfs hr.skip
  · split
    · exact .nothing
    · rename_i k r' hread
      have hr' := (ih.optional _ true true hr.skip k r' hread).2
      exact (ih.afterColon blockEnds true hr').behind (hentry k)
  · exact (ih.afterColon blockEnds true hr).behind (hentry .null)
  · exact .nothing

theorem flowSequence_succ (ih : ReadsWellFormed n) (first : Bool) (hr : r.Sound) :
    Gives AllWellFormed (Yaml.flowSequence (n + 1) first r) := by
  have hitem : Reader.Sound (if first then r else r.skip) := by
    split
    · exact hr
    · exact hr.skip
  unfold Yaml.flowSequence
  dsimp only
  generalize (if first then r else r.skip) = item at hitem
  split
  · exact .value .nil hr.skip
  · split
    · exact .nothing
    · split
      · exact .value .nil hitem.skip
      · split
        · exact .nothing
        · rename_i k r' hkey
          split
          · rename_i v r'' hread
            obtain ⟨hv, hr''⟩ :=
              ih.afterColon _ false (ih.pairKey hitem.skip k r' hkey).2 v r'' hread
            exact (ih.flowSequence false hr'').map fun vs hvs =>
              hvs.cons (Value.wellFormed_table (sound_putField .nil k hv))
          · exact .nothing
      · split
        · rename_i v r' hread
          obtain ⟨hv, hr'⟩ := ih.node false false hitem v r' hread
          exact (ih.flowSequence false hr').map fun vs hvs => hvs.cons hv
        · exact .nothing

theorem flowMapping_succ (ih : ReadsWellFormed n) (first : Bool) {fs : Fields}
    (hfs : fs.Sound WellFormed) (hr : r.Sound) :
    Gives (Named.Sound WellFormed) (Yaml.flowMapping (n + 1) first fs r) := by
  have hvalue {r : Reader} (hr : r.Sound) (colon : Bool) : Gives WellFormed
      (if colon then Yaml.afterColon n flowMappingEnds false r else some (.null, r)) := by
    split
    · exact ih.afterColon _ false hr
    · exact .value .null hr
  have hentry (k v : Value) (r : Reader) (hv : v.WellFormed) (hr : r.Sound) :
      Gives (Named.Sound WellFormed) (Yaml.flowMapping n false (putField fs k v) r) :=
    ih.flowMapping false (sound_putField hfs k hv) hr
  have hitem : Reader.Sound (if first then r else r.skip) := by
    split
    · exact hr
    · exact hr.skip
  unfold Yaml.flowMapping
  dsimp only
  generalize (if first then r else r.skip) = item at hitem
  split
  · exact .value hfs hr.skip
  · split
    · exact .nothing
    · split
      · exact .value hfs hitem.skip
      · split
        · exact .nothing
        · rename_i k r' hread
          have hr' := (ih.optional _ false false hitem.skip k r' hread).2
          exact (hvalue hr' true).behind (hentry k)
      · exact (hvalue hitem true).behind (hentry .null)
      · split
        · exact .nothing
        · rename_i k r' hread
          have hr' := (ih.node false false hitem k r' hread).2
          exact (hvalue hr' false).behind (hentry k)

theorem pairKey_succ (ih : ReadsWellFormed n) (hr : r.Sound) :
    Gives WellFormed (Yaml.pairKey (n + 1) r) := by
  unfold Yaml.pairKey
  split
  · exact .value .null hr.skip
  · exact ih.node false false hr

theorem afterColon_succ (ih : ReadsWellFormed n) (ends : List Token) (block : Bool) (hr : r.Sound) :
    Gives WellFormed (Yaml.afterColon (n + 1) ends block r) := by
  unfold Yaml.afterColon
  split
  · exact ih.optional ends block block hr.skip
  · exact .value .null hr

theorem optional_succ (ih : ReadsWellFormed n) (ends : List Token) (block indentless : Bool)
    (hr : r.Sound) : Gives WellFormed (Yaml.optional (n + 1) ends block indentless r) := by
  unfold Yaml.optional
  split
  · exact .value .null hr
  · exact ih.node block indentless hr

theorem zero : ReadsWellFormed 0 where
  node _ _ _ _ := by unfold Yaml.node; exact .nothing
  content _ _ _ _ _ := by unfold Yaml.content; exact .nothing
  blockSequence _ := by unfold Yaml.blockSequence; exact .nothing
  indentlessSequence _ := by unfold Yaml.indentlessSequence; exact .nothing
  blockMapping _ _ := by unfold Yaml.blockMapping; exact .nothing
  flowSequence _ _ _ := by unfold Yaml.flowSequence; exact .nothing
  flowMapping _ _ _ _ _ := by unfold Yaml.flowMapping; exact .nothing
  pairKey _ := by unfold Yaml.pairKey; exact .nothing
  afterColon _ _ _ _ := by unfold Yaml.afterColon; exact .nothing
  optional _ _ _ _ _ := by unfold Yaml.optional; exact .nothing

end ReadsWellFormed

theorem readsWellFormed (n : Nat) : ReadsWellFormed n := by
  induction n with
  | zero => exact .zero
  | succ n ih =>
      refine ⟨?_, ?_, ih.blockSequence_succ, ih.indentlessSequence_succ, ih.blockMapping_succ, ?_, ?_,
        ih.pairKey_succ, ?_, ?_⟩
      · exact fun block indentless _ hr => ih.node_succ block indentless hr
      · exact fun block indentless p _ hr => ih.content_succ block indentless p hr
      · exact fun first _ hr => ih.flowSequence_succ first hr
      · exact fun first _ _ hfs hr => ih.flowMapping_succ first hfs hr
      · exact fun ends block _ hr => ih.afterColon_succ ends block hr
      · exact fun ends block indentless _ hr => ih.optional_succ ends block indentless hr

/-! ## Streams -/

theorem wellFormed_ofTokens? {ts : List Token} {v : Value} (h : ofTokens? ts = some v) :
    v.WellFormed := by
  have hstart : Reader.Sound { tokens := ts } := fun x hx => absurd hx List.not_mem_nil
  have hexplicit (n : Nat) : Gives WellFormed (explicitDocument n { tokens := ts }) := by
    unfold explicitDocument
    split
    · exact (readsWellFormed n).optional _ true false hstart
    · exact .nothing
  unfold ofTokens? at h
  dsimp only at h
  split at h
  · rw [← Option.some.inj h]
    exact Value.wellFormed_table .nil
  · split at h
    · rename_i w r hread
      split at h
      · rw [← Option.some.inj h]
        split at hread
        · exact (hexplicit _ w r hread).1
        · exact ((readsWellFormed _).node true false hstart w r hread).1
      · nomatch h
    · nomatch h

theorem wellFormed_parse? {s : List Char} {v : Value} (h : parse? s = some v) : v.WellFormed := by
  obtain ⟨ts, -, hts⟩ := Option.bind_eq_some_iff.mp h
  exact wellFormed_ofTokens? hts

end CertRotation.Document.Yaml
