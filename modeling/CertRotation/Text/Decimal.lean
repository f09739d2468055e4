/-
Decimal numbers in text: reading unsigned numbers below a limit, and writing.

Ports, worker counts and durations are all read by the same rule: ASCII digits
only, any number of leading zeros, and a value that fits the type that holds it.
-/
namespace CertRotation.Text.Decimal

/-- The largest natural of 64 bits. -/
def maxWord : Nat := 0xFFFFFFFFFFFFFFFF

/-- The value of an ASCII digit. -/
def digit? (c : Char) : Option Nat :=
  if '0' ≤ c ∧ c ≤ '9' then some (c.toNat - '0'.toNat) else none

/-- Whether a character is an ASCII digit. -/
def isDigit (c : Char) : Bool :=
  (digit? c).isSome

/-- Reads digits onto a value already read. -/
def readOnto (acc : Nat) : List Char → Option Nat
  | [] => some acc
  | c :: r =>
    match digit? c with
    | some d => readOnto (acc * 10 + d) r
    | none => none

/-- The value of a non-empty run of digits. -/
def digits? : List Char → Option Nat
  | [] => none
  | s => readOnto 0 s

/-- The value of a run of digits, if it is at most `limit`. -/
def upTo? (limit : Nat) (s : List Char) : Option Nat :=
  (digits? s).filter (· ≤ limit)

/-- An unsigned number of at most `limit`, with an optional plus sign. -/
def unsigned? (limit : Nat) : List Char → Option Nat
  | '+' :: s => upTo? limit s
  | s => upTo? limit s

/-- The character of a digit below ten. -/
def digitChar (d : Nat) : Char :=
  Char.ofNat ('0'.toNat + d)

/-- Decimal digits, most significant first, without leading zeros. -/
def write (n : Nat) : List Char :=
  if n < 10 then [digitChar n] else write (n / 10) ++ [digitChar (n % 10)]

/-- Decimal text of an integer, with a minus sign where it is negative. -/
def writeInt (i : Int) : List Char :=
  if i < 0 then '-' :: write i.natAbs else write i.natAbs

/-- A whole number with an optional sign. -/
def int? : List Char → Option Int
  | [] => none
  | c :: r =>
    if c = '-' then (digits? r).map fun n : Nat => -(n : Int)
    else if c = '+' then (digits? r).map fun n : Nat => (n : Int)
    else (digits? (c :: r)).map fun n : Nat => (n : Int)

/-- Decimal digits padded with zeros to a least width. -/
def padded (width n : Nat) : List Char :=
  let s := write n
  List.replicate (width - s.length) '0' ++ s

/-! ## What is written reads back -/

theorem digit?_digitChar : ∀ d < 10, digit? (digitChar d) = some d := by
  decide

theorem isDigit_digitChar {d : Nat} (h : d < 10) : isDigit (digitChar d) = true := by
  rw [isDigit, digit?_digitChar d h]
  rfl

theorem readOnto_append (s t : List Char) (acc : Nat) :
    readOnto acc (s ++ t) = (readOnto acc s).bind (readOnto · t) := by
  induction s generalizing acc with
  | nil => rfl
  | cons c s ih =>
      simp only [List.cons_append, readOnto]
      cases digit? c with
      | none => rfl
      | some d => exact ih (acc * 10 + d)

theorem write_ne_nil (n : Nat) : write n ≠ [] := by
  unfold write
  split
  · exact List.cons_ne_nil _ _
  · exact List.append_ne_nil_of_right_ne_nil _ (List.cons_ne_nil _ _)

theorem isDigit_of_mem_write {n : Nat} {c : Char} (h : c ∈ write n) : isDigit c = true := by
  induction n using write.induct with
  | case1 n hn =>
      rw [write, if_pos hn, List.mem_singleton] at h
      rw [h]
      exact isDigit_digitChar hn
  | case2 n hn ih =>
      rw [write, if_neg hn, List.mem_append, List.mem_singleton] at h
      rcases h with h | rfl
      · exact ih h
      · exact isDigit_digitChar (Nat.mod_lt n (by decide))

theorem readOnto_write (n : Nat) : readOnto 0 (write n) = some n := by
  induction n using write.induct with
  | case1 n hn =>
      rw [write, if_pos hn]
      simp only [readOnto, digit?_digitChar n hn, Nat.zero_mul, Nat.zero_add]
  | case2 n hn ih =>
      have hlast := digit?_digitChar (n % 10) (Nat.mod_lt n (by decide))
      rw [write, if_neg hn, readOnto_append, ih, Option.bind_some]
      simp only [readOnto, hlast, Option.some.injEq]
      exact Nat.div_add_mod' n 10

theorem digits?_write (n : Nat) : digits? (write n) = some n := by
  cases hn : write n with
  | nil => exact absurd hn (write_ne_nil n)
  | cons c r =>
      have h := readOnto_write n
      rw [hn] at h
      exact h

theorem int?_writeInt (i : Int) : int? (writeInt i) = some i := by
  unfold writeInt
  split
  · rename_i hneg
    rw [int?, if_pos rfl, digits?_write, Option.map_some]
    congr 1
    omega
  · rename_i hneg
    have hread := digits?_write i.natAbs
    cases hw : write i.natAbs with
    | nil => exact absurd hw (write_ne_nil _)
    | cons c r =>
        -- A number begins with a digit, so it is not taken for a sign.
        have hc : isDigit c = true := isDigit_of_mem_write (hw ▸ List.mem_cons_self)
        have hminus : c ≠ '-' := by
          rintro rfl
          exact absurd hc (by decide)
        have hplus : c ≠ '+' := by
          rintro rfl
          exact absurd hc (by decide)
        rw [hw] at hread
        rw [int?, if_neg hminus, if_neg hplus, hread, Option.map_some]
        congr 1
        omega

/-- The characters of a written number. -/
theorem mem_writeInt {i : Int} {c : Char} (h : c ∈ writeInt i) : c = '-' ∨ isDigit c = true := by
  unfold writeInt at h
  split at h
  · exact (List.mem_cons.mp h).imp_right isDigit_of_mem_write
  · exact Or.inr (isDigit_of_mem_write h)

theorem writeInt_ne_nil (i : Int) : writeInt i ≠ [] := by
  unfold writeInt
  split
  · exact List.cons_ne_nil _ _
  · exact write_ne_nil _

/-! ## Hexadecimal digits -/

/-- The value of a hexadecimal digit of either case. -/
def hexDigit? (c : Char) : Option Nat :=
  if '0' ≤ c ∧ c ≤ '9' then some (c.toNat - '0'.toNat)
  else if 'a' ≤ c ∧ c ≤ 'f' then some (c.toNat - 'a'.toNat + 10)
  else if 'A' ≤ c ∧ c ≤ 'F' then some (c.toNat - 'A'.toNat + 10)
  else none

/-- The lower-case character of a hexadecimal digit below sixteen. -/
def hexChar (d : Nat) : Char :=
  if d < 10 then digitChar d else Char.ofNat ('a'.toNat + (d - 10))

/-- Lower-case hexadecimal digits without leading zeros. -/
def writeHex (n : Nat) : List Char :=
  if n < 16 then [hexChar n] else writeHex (n / 16) ++ [hexChar (n % 16)]

end CertRotation.Text.Decimal
