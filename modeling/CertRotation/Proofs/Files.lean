/-
# `Proofs.Files` — what is read is what was written

`FileTree.read` follows a path step by step, and can fail in many ways.  Of a path that names a place
for a file (`Names`: the directories on its way exist, and it leads to none itself) all that is left
is what stands at its place (`read_eq_ok_iff`).  Writing a file there changes what stands at this one
place (`node?_write`), and the laws of reading after writing follow.

That nothing else changes is not plain from the table of a tree: a directory is also what has
something below it.  It holds because the way to a place goes through everything above it
(`mem_passes_of_above`), and that was a directory before.
-/
import CertRotation.Files

namespace CertRotation.FileTree

/-! ## The way of a path -/

/-- The places that some components pass through on their way from a place. -/
def passes (at_ : List String) : List String → List (List String)
  | [] => []
  | c :: rest => at_ :: passes (enter at_ c) rest

/-- A component leads one step down, or up. -/
theorem enter_eq (at_ : List String) (c : String) :
    enter at_ c = at_ ++ [c] ∨ enter at_ c <+: at_ := by
  unfold enter
  split
  · exact Or.inl rfl
  · rename_i hc
    rw [Decidable.not_not.mp hc]
    split
    · exact Or.inr List.prefix_rfl
    · split
      · exact Or.inl rfl
      · exact Or.inr (List.dropLast_prefix at_)

/-- What is above the end of a way was passed, or is above its beginning. -/
theorem mem_passes_of_above {a at_ rest : List String} (h : a <+: rest.foldl enter at_)
    (hne : a ≠ rest.foldl enter at_) : a ∈ passes at_ rest ∨ a <+: at_ := by
  induction rest generalizing at_ with
  | nil => exact Or.inr h
  | cons c rest ih =>
      rcases ih h hne with hmem | hpre
      · exact Or.inl (List.mem_cons_of_mem at_ hmem)
      · rcases enter_eq at_ c with hdown | hup
        · rw [hdown, List.prefix_concat_iff] at hpre
          rcases hpre with hend | hpre
          · cases rest with
            | nil => exact absurd (hend.trans hdown.symm) hne
            | cons c' rest =>
                refine Or.inl (List.mem_cons_of_mem at_ ?_)
                rw [hend, ← hdown]
                exact List.mem_cons_self
          · exact Or.inr hpre
        · exact Or.inr (hpre.trans hup)

theorem isOrigin_of_above {a : List String} {path : String} (h : a <+: origin path) :
    isOrigin a = true := by
  unfold origin at h
  split at h
  · rcases List.prefix_cons_iff.mp h with rfl | ⟨b, rfl, hb⟩
    · rfl
    · rw [List.prefix_nil.mp hb]
      decide
  · rw [List.prefix_nil.mp h]
    rfl

/-! ## Reading is looking at a place -/

/-- A path names a place for a file: within all bounds, through directories that exist, to what is
not a directory. -/
structure Names (t : FileTree) (path : String) : Prop where
  noNul : path.toList.contains '\x00' = false
  isShort : path.utf8ByteSize ≤ maxPath
  noSlash : endsInSlash path = false
  shortNames : ∀ c ∈ components path, c.utf8ByteSize ≤ maxName
  directories : ∀ d ∈ passes (origin path) (components path), t.node? d = some .directory
  free : t.node? (place path) ≠ some .directory

section
variable {t : FileTree} {data : Bytes}

theorem node?_of_isOrigin {a : List String} (h : isOrigin a = true) :
    t.node? a = some .directory := by
  unfold node?
  rw [if_pos h]

/-- What is above the place of a file is a directory. -/
theorem Names.above {path : String} (h : Names t path) {a : List String} (hpre : a <+: place path)
    (hne : a ≠ place path) : t.node? a = some .directory := by
  rcases mem_passes_of_above hpre hne with hmem | hpre
  · exact h.directories a hmem
  · exact node?_of_isOrigin (isOrigin_of_above hpre)

/-- Through directories that exist, following a way is looking at its end. -/
theorem follow_of_directories {at_ rest : List String}
    (hshort : ∀ c ∈ rest, c.utf8ByteSize ≤ maxName)
    (h : ∀ d ∈ passes at_ rest, t.node? d = some .directory) :
    t.follow at_ rest = t.follow (rest.foldl enter at_) [] := by
  induction rest generalizing at_ with
  | nil => rfl
  | cons c rest ih =>
      have hhere : t.node? at_ = some .directory := h at_ List.mem_cons_self
      have hc : ¬ maxName < c.utf8ByteSize := Nat.not_lt.mpr (hshort c List.mem_cons_self)
      have hstep : t.follow at_ (c :: rest) = t.follow (enter at_ c) rest := by
        simp only [follow, hhere, hc, if_false]
      rw [hstep, List.foldl_cons]
      exact ih (fun d hd => hshort d (List.mem_cons_of_mem c hd))
        fun d hd => h d (List.mem_cons_of_mem at_ hd)

/-- All that reading a file is, where the path names a place for it. -/
theorem read_eq_ok_iff {path : String} (h : Names t path) :
    t.read path = .ok data ↔ t.node? (place path) = some (.file data) := by
  have hempty : path ≠ "" := by
    rintro rfl
    exact h.free (node?_of_isOrigin (by decide))
  have hfollow : t.follow (origin path) (components path) = t.follow (place path) [] :=
    follow_of_directories h.shortNames h.directories
  unfold read
  simp only [h.noNul, hempty, Nat.not_lt.mpr h.isShort, h.noSlash, hfollow, follow, if_false,
    Bool.false_eq_true]
  cases hnode : t.node? (place path) with
  | none => simp
  | some n =>
      cases n with
      | file d => simp
      | directory => exact absurd hnode h.free

end

/-! ## Writing -/

section
variable {t : FileTree} {p q : String} {data : Bytes}

theorem lookup_filter_ne {nodes : List (List String × Node)} {a b : List String} (h : a ≠ b) :
    (nodes.filter (·.1 ≠ b)).lookup a = nodes.lookup a := by
  induction nodes with
  | nil => rfl
  | cons entry nodes ih =>
      obtain ⟨c, n⟩ := entry
      by_cases hc : c = b
      · subst hc
        simp only [List.filter_cons, ne_eq, not_true_eq_false, decide_false, Bool.false_eq_true,
          if_false, List.lookup_cons, beq_false_of_ne h]
        exact ih
      · simp only [List.filter_cons, ne_eq, hc, not_false_eq_true, decide_true, if_true,
          List.lookup_cons]
        rw [ih]

/-- Whatever is not above a place does not see its entry. -/
theorem any_filter_ne {nodes : List (List String × Node)} {a b : List String} (h : ¬ a <+: b) :
    (nodes.filter (·.1 ≠ b)).any (fun (p, _) => a.isPrefixOf p) =
      nodes.any fun (p, _) => a.isPrefixOf p := by
  induction nodes with
  | nil => rfl
  | cons entry nodes ih =>
      obtain ⟨c, n⟩ := entry
      by_cases hc : c = b
      · subst hc
        have hpre : a.isPrefixOf c = false := by
          rw [Bool.eq_false_iff, Ne, List.isPrefixOf_iff_prefix]
          exact h
        rw [List.filter_cons_of_neg (by simp), List.any_cons]
        dsimp only
        rw [hpre, Bool.false_or]
        exact ih
      · rw [List.filter_cons_of_pos (by simpa using hc), List.any_cons, List.any_cons, ih]

/-- A written file stands at its place, and everywhere else stands what stood there. -/
theorem node?_write (h : Names t p) (a : List String) :
    (t.write p data).node? a = if a = place p then some (.file data) else t.node? a := by
  by_cases horigin : isOrigin a = true
  · have hne : a ≠ place p := by
      rintro rfl
      exact h.free (node?_of_isOrigin horigin)
    rw [node?_of_isOrigin horigin, node?_of_isOrigin horigin, if_neg hne]
  · by_cases hplace : a = place p
    · rw [if_pos hplace]
      unfold node?
      rw [if_neg horigin]
      simp [write, put, hplace]
    · rw [if_neg hplace]
      by_cases hpre : a <+: place p
      · have hdir := h.above hpre hplace
        rw [hdir]
        unfold node? at hdir ⊢
        rw [if_neg horigin] at hdir ⊢
        simp only [write, put, List.lookup_cons, beq_false_of_ne hplace, lookup_filter_ne hplace]
        cases hlookup : t.nodes.lookup a with
        | none => simp [hpre]
        | some n => rw [hlookup] at hdir; exact hdir
      · have hpre' : a.isPrefixOf (place p) = false := by
          rw [Bool.eq_false_iff, Ne, List.isPrefixOf_iff_prefix]
          exact hpre
        simp only [node?, write, put, List.lookup_cons, beq_false_of_ne hplace,
          lookup_filter_ne hplace, List.any_cons, any_filter_ne hpre, hpre', Bool.false_or]

/-- Writing a file leaves every path a name that was one. -/
theorem Names.write (hp : Names t p) (hq : Names t q) : Names (t.write p data) q :=
  { hq with
    directories := by
      intro d hd
      have hdir := hq.directories d hd
      have hne : d ≠ place p := by
        rintro rfl
        exact hp.free hdir
      rw [node?_write hp, if_neg hne, hdir]
    free := by
      rw [node?_write hp]
      split
      · exact fun h => nomatch h
      · exact hq.free }

/-- What was written is read. -/
theorem read_write (h : Names t p) : (t.write p data).read p = .ok data := by
  rw [read_eq_ok_iff (h.write h), node?_write h, if_pos rfl]

/-- Writing a file changes no other file. -/
theorem read_write_other (hp : Names t p) (hq : Names t q) (hne : place q ≠ place p) {d : Bytes} :
    (t.write p data).read q = .ok d ↔ t.read q = .ok d := by
  rw [read_eq_ok_iff (hp.write hq), read_eq_ok_iff hq, node?_write hp, if_neg hne]

end

end CertRotation.FileTree
