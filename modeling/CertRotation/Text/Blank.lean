/-
White space of text, and trimming by it.

Requests, replies and names are trimmed by the Unicode property White_Space, so
the set is spelled out here once.  All functions work on lists of characters;
callers convert from and to `String` at their own border.
-/
namespace CertRotation.Text

/-- The characters with the Unicode property White_Space. -/
def isBlank (c : Char) : Bool :=
  let n := c.toNat
  (9 ≤ n && n ≤ 13) || n == 0x20 || n == 0x85 || n == 0xA0 || n == 0x1680
    || (0x2000 ≤ n && n ≤ 0x200A) || n == 0x2028 || n == 0x2029 || n == 0x202F
    || n == 0x205F || n == 0x3000

/-- Drops white space at the start. -/
def trimStart (s : List Char) : List Char :=
  s.dropWhile isBlank

/-- Drops white space at the end. -/
def trimEnd (s : List Char) : List Char :=
  (s.reverse.dropWhile isBlank).reverse

/-- Drops white space at both ends. -/
def trim (s : List Char) : List Char :=
  trimEnd (trimStart s)

@[simp] theorem trimEnd_nil : trimEnd [] = [] := rfl

@[simp] theorem trim_nil : trim [] = [] := rfl

/-- The part of a text before the first `d` and the part after it. -/
def splitFirst (d : Char) (s : List Char) : Option (List Char × List Char) :=
  match s with
  | [] => none
  | c :: r =>
    if c = d then some ([], r)
    else (splitFirst d r).map fun (a, b) => (c :: a, b)

/-- The part of a text before the last `d` and the part after it. -/
def splitLast (d : Char) (s : List Char) : Option (List Char × List Char) :=
  (splitFirst d s.reverse).map fun (a, b) => (b.reverse, a.reverse)

/-- The pieces of a text between the occurrences of `d`; never empty. -/
def splitAll (d : Char) (s : List Char) : List (List Char) :=
  match s with
  | [] => [[]]
  | c :: r =>
    if c = d then [] :: splitAll d r
    else
      match splitAll d r with
      | [] => [[c]]
      | p :: ps => (c :: p) :: ps

/-- A piece that ends at a `d` is the first. -/
theorem splitAll_cons {d : Char} {p : List Char} (hp : d ∉ p) (r : List Char) :
    splitAll d (p ++ d :: r) = p :: splitAll d r := by
  induction p with
  | nil => rw [List.nil_append, splitAll, if_pos rfl]
  | cons c p ih =>
      have hc : c ≠ d := fun e => hp (e ▸ List.mem_cons_self)
      rw [List.cons_append, splitAll, if_neg hc, ih fun h => hp (List.mem_cons_of_mem c h)]

/-- Pieces that each end at a `d`: all of them, and nothing behind the last. -/
theorem splitAll_flatMap {d : Char} {ps : List (List Char)} (hps : ∀ p ∈ ps, d ∉ p) :
    splitAll d (ps.flatMap (· ++ [d])) = ps ++ [[]] := by
  induction ps with
  | nil => rfl
  | cons p ps ih =>
      rw [List.flatMap_cons, List.append_assoc, List.singleton_append,
        splitAll_cons (hps p List.mem_cons_self), ih fun q hq => hps q (List.mem_cons_of_mem p hq)]
      rfl

/-- Pieces written one after the other with `d` between them. -/
def joinWith (d : List Char) (ps : List (List Char)) : List Char :=
  match ps with
  | [] => []
  | [p] => p
  | p :: q :: r => p ++ d ++ joinWith d (q :: r)

theorem mem_joinWith {c : Char} {d : List Char} {ps : List (List Char)} (h : c ∈ joinWith d ps) :
    c ∈ d ∨ ∃ p ∈ ps, c ∈ p := by
  induction ps with
  | nil => nomatch h
  | cons p ps ih =>
      cases ps with
      | nil => exact Or.inr ⟨p, List.mem_cons_self, h⟩
      | cons q ps =>
          simp only [joinWith, List.mem_append] at h
          rcases h with (h | h) | h
          · exact Or.inr ⟨p, List.mem_cons_self, h⟩
          · exact Or.inl h
          · refine (ih h).imp_right ?_
            rintro ⟨r, hr, hc⟩
            exact ⟨r, List.mem_cons_of_mem p hr, hc⟩

end CertRotation.Text
