/-
# `Proofs.Text.Blank` — trimming and splitting

What trimming takes away is white space at an end, so it can be done in any order and over again.
The law that the others follow from is how the end of a text is trimmed that is put together of two:

    trimEnd (s ++ t) = s ++ trimEnd t,   and trimEnd s if nothing of t is left   (`trimEnd_append`)

What is left is the one text that stands between white space and has none at its own ends
(`trimsTo_iff`).
-/
import Mathlib.Data.List.TakeWhile
import CertRotation.Text.Blank

namespace CertRotation.Text

/-! ## Trimming -/

section
variable {s t : List Char}

theorem trimEnd_append (s t : List Char) :
    trimEnd (s ++ t) = if trimEnd t = [] then trimEnd s else s ++ trimEnd t := by
  unfold trimEnd
  rw [List.reverse_append, List.dropWhile_append]
  by_cases h : t.reverse.dropWhile isBlank = []
  · simp only [h, List.isEmpty_nil, if_true, List.reverse_nil]
  · have hne : (t.reverse.dropWhile isBlank).reverse ≠ [] := fun e => h (List.reverse_eq_nil_iff.mp e)
    simp only [h, hne, List.isEmpty_iff, if_false, List.reverse_append, List.reverse_reverse]

theorem trimEnd_eq_nil_iff : trimEnd s = [] ↔ ∀ c ∈ s, isBlank c = true := by
  unfold trimEnd
  rw [List.reverse_eq_nil_iff, List.dropWhile_eq_nil_iff]
  simp only [List.mem_reverse]

theorem trimStart_eq_nil_iff : trimStart s = [] ↔ ∀ c ∈ s, isBlank c = true :=
  List.dropWhile_eq_nil_iff

theorem trim_eq_nil (h : ∀ c ∈ s, isBlank c = true) : trim s = [] := by
  rw [trim, trimStart_eq_nil_iff.mpr h, trimEnd_nil]

/-- White space at the end does not count. -/
theorem trimEnd_append_blank (s : List Char) {c : Char} (h : isBlank c = true) :
    trimEnd (s ++ [c]) = trimEnd s := by
  have hc : trimEnd [c] = [] := trimEnd_eq_nil_iff.mpr (by simpa using h)
  rw [trimEnd_append, if_pos hc]

/-- Nothing is trimmed behind a character that is no white space. -/
theorem trimEnd_append_word (s : List Char) {c : Char} (h : isBlank c = false) :
    trimEnd (s ++ [c]) = s ++ [c] := by
  unfold trimEnd
  rw [List.reverse_append, List.reverse_singleton, List.singleton_append,
    List.dropWhile_cons_of_neg (by simp [h]), List.reverse_cons, List.reverse_reverse]

/-- What is trimmed at the end ends with the text that is left and white space. -/
theorem exists_trimEnd (s : List Char) :
    ∃ b, s = trimEnd s ++ b ∧ ∀ c ∈ b, isBlank c = true := by
  refine ⟨(s.reverse.takeWhile isBlank).reverse, ?_, ?_⟩
  · have h := congrArg List.reverse (@List.takeWhile_append_dropWhile _ isBlank s.reverse)
    rw [List.reverse_append, List.reverse_reverse] at h
    exact h.symm
  · intro c hc
    exact List.all_eq_true.mp List.all_takeWhile c (List.mem_reverse.mp hc)

theorem mem_of_mem_trimEnd {c : Char} (h : c ∈ trimEnd s) : c ∈ s := by
  obtain ⟨b, hb, -⟩ := exists_trimEnd s
  rw [hb]
  exact List.mem_append_left b h

theorem mem_of_mem_trim {c : Char} (h : c ∈ trim s) : c ∈ s :=
  (List.dropWhile_sublist isBlank).subset (mem_of_mem_trimEnd h)

/-- Blank characters behind a text do not count when it is trimmed. -/
theorem trim_append_blanks (s : List Char) (h : ∀ c ∈ t, isBlank c = true) :
    trim (s ++ t) = trim s := by
  have ht : trimEnd t = [] := trimEnd_eq_nil_iff.mpr h
  unfold trim trimStart
  rw [List.dropWhile_append]
  by_cases hs : s.dropWhile isBlank = []
  · have hstart : t.dropWhile isBlank = [] := trimStart_eq_nil_iff.mpr h
    simp only [hs, List.isEmpty_nil, if_true, hstart]
  · simp only [hs, List.isEmpty_iff, if_false]
    rw [trimEnd_append, if_pos ht]

theorem trim_eq_nil_iff : trim s = [] ↔ ∀ c ∈ s, isBlank c = true := by
  constructor
  · intro h
    by_contra hword
    have hstart : trimStart s ≠ [] := fun e => hword (trimStart_eq_nil_iff.mp e)
    obtain ⟨c, r, hcr⟩ := List.exists_cons_of_ne_nil hstart
    have hblank := trimEnd_eq_nil_iff.mp h c (hcr ▸ List.mem_cons_self)
    have hfirst := List.head?_dropWhile_not isBlank s
    rw [trimStart] at hcr
    rw [hcr, List.head?_cons] at hfirst
    simp [hblank] at hfirst
  · exact trim_eq_nil

/-- What stands behind a text shows when both are trimmed, unless it is blank. -/
theorem trim_append_eq_iff : trim (s ++ t) = trim s ↔ ∀ c ∈ t, isBlank c = true := by
  constructor
  · intro h
    by_contra hword
    have ht : trimEnd t ≠ [] := fun e => hword (trimEnd_eq_nil_iff.mp e)
    by_cases hs : trimStart s = []
    · have hall : ∀ c ∈ s ++ t, isBlank c = true := by
        rw [← trim_eq_nil_iff, h, trim, hs, trimEnd_nil]
      exact hword fun c hc => hall c (List.mem_append_right s hc)
    · have hstart : trimStart (s ++ t) = trimStart s ++ t := by
        unfold trimStart at hs ⊢
        rw [List.dropWhile_append, if_neg (mt List.isEmpty_iff.mp hs)]
      have hlength := congrArg List.length h
      rw [trim, trim, hstart, trimEnd_append, if_neg ht, List.length_append] at hlength
      obtain ⟨b, hb, -⟩ := exists_trimEnd (trimStart s)
      have hshorter := congrArg List.length hb
      rw [List.length_append] at hshorter
      have hpositive : 0 < (trimEnd t).length := List.length_pos_iff.mpr ht
      omega
  · exact trim_append_blanks s

/-- A text may be trimmed at its end before it is trimmed at both. -/
theorem trim_trimEnd (s : List Char) : trim (trimEnd s) = trim s := by
  obtain ⟨b, hb, hblank⟩ := exists_trimEnd s
  calc trim (trimEnd s) = trim (trimEnd s ++ b) := (trim_append_blanks _ hblank).symm
    _ = trim s := by rw [← hb]

end

/-! ## Texts without white space at their ends -/

/-- No white space stands at either end of a text. -/
def Trimmed (s : List Char) : Prop :=
  (∀ c, s.head? = some c → isBlank c = false) ∧ ∀ c, s.getLast? = some c → isBlank c = false

/-- What is left of a text without the white space at its ends. -/
def TrimsTo (s m : List Char) : Prop :=
  Trimmed m ∧ ∃ front back, s = front ++ m ++ back ∧ (∀ c ∈ front, isBlank c = true) ∧
    ∀ c ∈ back, isBlank c = true

section
variable {s m : List Char}

theorem not_blank_of_head?_dropWhile {c : Char} (h : (s.dropWhile isBlank).head? = some c) :
    isBlank c = false := by
  have hfirst := List.head?_dropWhile_not isBlank s
  rw [h] at hfirst
  exact hfirst

theorem dropWhile_of_head?_not_blank (h : ∀ c, s.head? = some c → isBlank c = false) :
    s.dropWhile isBlank = s := by
  cases s with
  | nil => rfl
  | cons c s => exact List.dropWhile_cons_of_neg (Bool.eq_false_iff.mp (h c rfl))

theorem trimmed_trim (s : List Char) : Trimmed (trim s) := by
  constructor
  · intro c hc
    -- Trimming at the end leaves the first character where it is, if it leaves any.
    obtain ⟨back, hback, -⟩ := exists_trimEnd (trimStart s)
    refine not_blank_of_head?_dropWhile (s := s) ?_
    rw [trim] at hc
    rw [← trimStart, hback, List.head?_append, hc, Option.some_or]
  · intro c hc
    rw [trim, trimEnd, List.getLast?_reverse] at hc
    exact not_blank_of_head?_dropWhile hc

theorem Trimmed.trim_eq (h : Trimmed s) : trim s = s := by
  have hback : ∀ c, s.reverse.head? = some c → isBlank c = false := by
    intro c hc
    rw [List.head?_reverse] at hc
    exact h.2 c hc
  rw [trim, trimStart, dropWhile_of_head?_not_blank h.1, trimEnd, dropWhile_of_head?_not_blank hback,
    List.reverse_reverse]

/-- A text without white space is trimmed to itself. -/
theorem trim_eq_self (h : ∀ c ∈ s, isBlank c = false) : trim s = s :=
  Trimmed.trim_eq ⟨fun c hc => h c (List.mem_of_head? hc), fun c hc => h c (List.mem_of_getLast? hc)⟩

/-- Trimming leaves what is left without the white space at the ends. -/
theorem trimsTo_iff : TrimsTo s m ↔ trim s = m := by
  constructor
  · rintro ⟨hm, front, back, rfl, hfront, hback⟩
    rw [trim_append_blanks _ hback, trim, trimStart, List.dropWhile_append_of_pos hfront]
    exact hm.trim_eq
  · rintro rfl
    obtain ⟨back, hback, hblank⟩ := exists_trimEnd (trimStart s)
    refine ⟨trimmed_trim s, s.takeWhile isBlank, back, ?_, ?_, hblank⟩
    · rw [List.append_assoc, trim, ← hback, trimStart, List.takeWhile_append_dropWhile]
    · intro c hc
      exact List.all_eq_true.mp List.all_takeWhile c hc

end

/-! ## Splitting -/

section
variable {d : Char} {p : List Char}

/-- The first `d` is the one behind a piece that holds none. -/
theorem splitFirst_append (h : d ∉ p) (r : List Char) : splitFirst d (p ++ d :: r) = some (p, r) := by
  induction p with
  | nil => rw [List.nil_append, splitFirst, if_pos rfl]
  | cons c p ih =>
      have hc : c ≠ d := fun e => h (e ▸ List.mem_cons_self)
      rw [List.cons_append, splitFirst, if_neg hc, ih fun hmem => h (List.mem_cons_of_mem c hmem)]
      rfl

theorem splitFirst_none (h : d ∉ p) : splitFirst d p = none := by
  induction p with
  | nil => rfl
  | cons c p ih =>
      have hc : c ≠ d := fun e => h (e ▸ List.mem_cons_self)
      rw [splitFirst, if_neg hc, ih fun hmem => h (List.mem_cons_of_mem c hmem)]
      rfl

/-- A text is split at its first `d`: the part before it holds none. -/
theorem splitFirst_eq_some_iff {a b s : List Char} :
    splitFirst d s = some (a, b) ↔ s = a ++ d :: b ∧ d ∉ a := by
  constructor
  · intro h
    induction s generalizing a with
    | nil => nomatch h
    | cons c s ih =>
        rw [splitFirst] at h
        by_cases hc : c = d
        · rw [if_pos hc, Option.some.injEq, Prod.mk.injEq] at h
          obtain ⟨rfl, rfl⟩ := h
          exact ⟨by rw [hc, List.nil_append], List.not_mem_nil⟩
        · rw [if_neg hc, Option.map_eq_some_iff] at h
          obtain ⟨⟨a', b'⟩, hsplit, hparts⟩ := h
          obtain ⟨rfl, rfl⟩ := Prod.mk.inj hparts
          obtain ⟨hs, hd⟩ := ih hsplit
          refine ⟨by rw [hs, List.cons_append], ?_⟩
          rw [List.mem_cons]
          exact fun hmem => hmem.elim (fun e => hc e.symm) hd
  · rintro ⟨rfl, hd⟩
    exact splitFirst_append hd b

/-- A text is split at its last `d`: the part behind it holds none. -/
theorem splitLast_eq_some_iff {a b s : List Char} :
    splitLast d s = some (a, b) ↔ s = a ++ d :: b ∧ d ∉ b := by
  have hreverse : s.reverse = b.reverse ++ d :: a.reverse ↔ s = a ++ d :: b := by
    rw [← List.reverse_inj, List.reverse_reverse, List.reverse_append, List.reverse_cons,
      List.reverse_reverse, List.reverse_reverse, List.append_assoc, List.singleton_append]
  rw [splitLast, Option.map_eq_some_iff]
  constructor
  · rintro ⟨⟨b', a'⟩, hsplit, hparts⟩
    obtain ⟨rfl, rfl⟩ := Prod.mk.inj hparts
    obtain ⟨hs, hd⟩ := splitFirst_eq_some_iff.mp hsplit
    rw [List.mem_reverse]
    exact ⟨hreverse.mp (by rw [List.reverse_reverse, List.reverse_reverse, hs]), hd⟩
  · rintro ⟨hs, hd⟩
    refine ⟨(b.reverse, a.reverse), ?_, Prod.ext (List.reverse_reverse a) (List.reverse_reverse b)⟩
    rw [splitFirst_eq_some_iff, List.mem_reverse]
    exact ⟨hreverse.mpr hs, hd⟩

/-- The part before the first `d` is all that comes up to it. -/
theorem splitFirst_of_mem {s : List Char} (h : d ∈ s) :
    splitFirst d s = some (s.takeWhile (· ≠ d), (s.dropWhile (· ≠ d)).tail) := by
  induction s with
  | nil => exact absurd h List.not_mem_nil
  | cons c s ih =>
      rw [splitFirst]
      by_cases hc : c = d
      · simp [hc]
      · simp [hc, ih ((List.mem_cons.mp h).resolve_left (Ne.symm hc))]

/-- A text without a `d` is one piece. -/
theorem splitAll_of_not_mem (h : d ∉ p) : splitAll d p = [p] := by
  induction p with
  | nil => rfl
  | cons c p ih =>
      have hc : c ≠ d := fun e => h (e ▸ List.mem_cons_self)
      rw [splitAll, if_neg hc, ih fun hmem => h (List.mem_cons_of_mem c hmem)]

/-- Every character other than `d` is in one of the pieces. -/
theorem exists_mem_splitAll {c : Char} {s : List Char} (hc : c ≠ d) (h : c ∈ s) :
    ∃ q ∈ splitAll d s, c ∈ q := by
  induction s with
  | nil => exact absurd h List.not_mem_nil
  | cons a s ih =>
      rw [splitAll]
      by_cases ha : a = d
      · obtain ⟨q, hq, hmem⟩ := ih ((List.mem_cons.mp h).resolve_left fun e => hc (e.trans ha))
        rw [if_pos ha]
        exact ⟨q, List.mem_cons_of_mem _ hq, hmem⟩
      · rw [if_neg ha]
        cases hsplit : splitAll d s with
        | nil =>
            rcases List.mem_cons.mp h with rfl | h
            · exact ⟨[c], List.mem_singleton_self _, List.mem_singleton_self _⟩
            · obtain ⟨q, hq, -⟩ := ih h
              rw [hsplit] at hq
              exact absurd hq List.not_mem_nil
        | cons q qs =>
            rcases List.mem_cons.mp h with rfl | h
            · exact ⟨c :: q, List.mem_cons_self, List.mem_cons_self⟩
            · obtain ⟨q', hq', hmem⟩ := ih h
              rw [hsplit] at hq'
              rcases List.mem_cons.mp hq' with rfl | hq'
              · exact ⟨a :: q', List.mem_cons_self, List.mem_cons_of_mem a hmem⟩
              · exact ⟨q', List.mem_cons_of_mem _ hq', hmem⟩

end
end CertRotation.Text
