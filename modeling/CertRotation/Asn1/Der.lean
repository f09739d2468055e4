/-
Tagged values in the distinguished encoding.

A value is an identifier, a length and a content.  Readers differ in how much
of the encoding they admit, so the reader takes a profile: whether identifiers
of several octets exist, how long a length may be, and how large a content.
Every length must be written in the fewest octets.
-/
import CertRotation.Text.Utf8

namespace CertRotation.Asn1

/-- What a reader admits of the encoding. -/
structure Profile where
  longTags : Bool
  lengthOctets : Nat
  contentBelow : Option Nat

namespace Profile

/-- For display: identifiers up to four octets, no limit on contents. -/
def display : Profile := ⟨true, 4, none⟩

/-- For path validation: single identifiers, contents below 65535 octets. -/
def path : Profile := ⟨false, 4, some 65535⟩

/-- For private keys: single identifiers and lengths of at most two octets. -/
def key : Profile := ⟨false, 2, none⟩

end Profile

/-- One tagged value: identifier, content, and the octets of the whole. -/
structure Tlv where
  ident : Bytes
  content : Bytes
  raw : Bytes
deriving DecidableEq, Repr

/-- An unsigned number from its octets, most significant first. -/
def bigEndian (s : Bytes) : Nat :=
  s.foldl (fun n b => n * 256 + b.toNat) 0

/-- The further octets of a long identifier, at most `n` of them. -/
def longTag? : Nat → Bytes → Option (Bytes × Bytes)
  | 0, _ => none
  | _, [] => none
  | n + 1, b :: r =>
    if b.toNat < 128 then some ([b], r)
    else (longTag? n r).map fun (t, r) => (b :: t, r)

/-- The identifier and what follows it. -/
def identifier? (p : Profile) : Bytes → Option (Bytes × Bytes)
  | [] => none
  | a :: r =>
    if a.toNat % 32 ≠ 31 then some ([a], r)
    else if p.longTags then (longTag? 3 r).map fun (t, r) => (a :: t, r)
    else none

/-- The least length that needs `n` further octets. -/
def leastLong (n : Nat) : Nat :=
  if n = 1 then 128 else Nat.pow 256 (n - 1)

/-- The length and what follows it. -/
def length? (p : Profile) : Bytes → Option (Nat × Bytes)
  | [] => none
  | a :: r =>
    if a.toNat < 128 then some (a.toNat, r)
    else
      let n := a.toNat - 128
      if n = 0 ∨ p.lengthOctets < n ∨ r.length < n then none
      else
        let v := bigEndian (r.take n)
        if v < leastLong n then none else some (v, r.drop n)

/-- The first value and what follows it. -/
def next? (p : Profile) (s : Bytes) : Option (Tlv × Bytes) :=
  match identifier? p s with
  | none => none
  | some (ident, r) =>
    match length? p r with
    | none => none
    | some (n, r) =>
      if r.length < n ∨ p.contentBelow.any (· ≤ n) then none
      else some (⟨ident, r.take n, s.take (s.length - (r.length - n))⟩, r.drop n)

theorem longTag?_lt {n : Nat} {s t r : Bytes} (h : longTag? n s = some (t, r)) :
    r.length < s.length := by
  induction n generalizing s t r with
  | zero => simp [longTag?] at h
  | succ n ih =>
    cases s with
    | nil => simp [longTag?] at h
    | cons b s =>
      simp only [longTag?] at h
      split at h
      · simp only [Option.some.injEq, Prod.mk.injEq] at h
        simp [← h.2]
      · obtain ⟨⟨t', r'⟩, hm, he⟩ := Option.map_eq_some_iff.1 h
        simp only [Prod.mk.injEq] at he
        have := ih hm
        simp only [List.length_cons, ← he.2]
        omega

theorem identifier?_lt {p : Profile} {s t r : Bytes} (h : identifier? p s = some (t, r)) :
    r.length < s.length := by
  cases s with
  | nil => simp [identifier?] at h
  | cons a s =>
    simp only [identifier?] at h
    split at h
    · simp only [Option.some.injEq, Prod.mk.injEq] at h
      simp [← h.2]
    · split at h
      · obtain ⟨⟨t', r'⟩, hm, he⟩ := Option.map_eq_some_iff.1 h
        simp only [Prod.mk.injEq] at he
        have := longTag?_lt hm
        simp only [List.length_cons, ← he.2]
        omega
      · simp at h

theorem length?_lt {p : Profile} {s r : Bytes} {n : Nat} (h : length? p s = some (n, r)) :
    r.length < s.length := by
  cases s with
  | nil => simp [length?] at h
  | cons a s =>
    simp only [length?] at h
    split at h
    · simp only [Option.some.injEq, Prod.mk.injEq] at h
      simp [← h.2]
    · split at h
      · simp at h
      · split at h
        · simp at h
        · simp only [Option.some.injEq, Prod.mk.injEq] at h
          simp only [← h.2, List.length_cons, List.length_drop]
          omega

/-- Content and rest are both shorter than what was read. -/
theorem next?_lt {p : Profile} {s r : Bytes} {t : Tlv} (h : next? p s = some (t, r)) :
    t.content.length < s.length ∧ r.length < s.length := by
  unfold next? at h
  split at h
  · simp at h
  · rename_i ident r₁ h₁
    split at h
    · simp at h
    · rename_i n r₂ h₂
      have l₁ := identifier?_lt h₁
      have l₂ := length?_lt h₂
      split at h
      · simp at h
      · simp only [Option.some.injEq, Prod.mk.injEq] at h
        obtain ⟨h₃, h₄⟩ := h
        subst h₃ h₄
        simp only [List.length_take, List.length_drop]
        omega

/-- All values of a content, one after the other to its end. -/
def all? (p : Profile) (s : Bytes) : Option (List Tlv) :=
  if s.isEmpty then some []
  else
    match _h : next? p s with
    | none => none
    | some (t, r) => (all? p r).map (t :: ·)
termination_by s.length
decreasing_by exact (next?_lt _h).2

/-- Whether a content is a sequence of values at every depth.  The identifier
zero marks the end of an open content and has no place here. -/
def isNested (p : Profile) (s : Bytes) : Bool :=
  if s.isEmpty then true
  else
    match _h : next? p s with
    | none => false
    | some (t, r) =>
      t.ident.head? != some 0 && t.ident.head? != some 0x20
        && (!(t.ident.head?.any fun a => a.toNat / 32 % 2 == 1) || isNested p t.content)
        && isNested p r
termination_by s.length
decreasing_by
  · exact (next?_lt _h).1
  · exact (next?_lt _h).2

/-! ## Identifiers of the universal types, and of the context -/

def Tag.boolean : Bytes := [0x01]
def Tag.integer : Bytes := [0x02]
def Tag.bitString : Bytes := [0x03]
def Tag.octetString : Bytes := [0x04]
def Tag.oid : Bytes := [0x06]
def Tag.utf8String : Bytes := [0x0C]
def Tag.numericString : Bytes := [0x12]
def Tag.printableString : Bytes := [0x13]
def Tag.ia5String : Bytes := [0x16]
def Tag.utcTime : Bytes := [0x17]
def Tag.generalizedTime : Bytes := [0x18]
def Tag.sequence : Bytes := [0x30]
def Tag.set : Bytes := [0x31]

/-- The identifier of a constructed value of the context. -/
def Tag.explicit (n : Nat) : Bytes := [UInt8.ofNat (0xA0 + n)]

/-- The identifier of a primitive value of the context. -/
def Tag.implicit (n : Nat) : Bytes := [UInt8.ofNat (0x80 + n)]

namespace Tlv

/-- The content of a value with the given identifier. -/
def expect? (tag : Bytes) (t : Tlv) : Option Bytes :=
  if t.ident = tag then some t.content else none

/-- A positive number in the fewest octets. -/
def positive? (t : Tlv) : Option Nat :=
  match t.expect? Tag.integer with
  | none | some [] => none
  | some (0 :: b :: r) => if b.toNat < 128 then none else some (bigEndian (b :: r))
  | some (a :: r) => if a = 0 ∨ 128 ≤ a.toNat then none else some (bigEndian (a :: r))

end Tlv

/-- The content of a text that is one value with the given identifier. -/
def whole? (p : Profile) (tag : Bytes) (s : Bytes) : Option Bytes :=
  match next? p s with
  | some (t, []) => t.expect? tag
  | _ => none

/-- Takes a leading value with the given identifier off a list of values. -/
def takeOptional (tag : Bytes) : List Tlv → Option Tlv × List Tlv
  | [] => (none, [])
  | t :: ts => if t.ident = tag then (some t, ts) else (none, t :: ts)

end CertRotation.Asn1
