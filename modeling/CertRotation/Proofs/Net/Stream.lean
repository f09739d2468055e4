/-
# `Proofs.Net.Stream` — lines and what is read of them

A text in UTF-8 holds the octet of a line feed exactly if it holds a line feed, so cutting octets
at the first of them is cutting the text.  A line counts once its line feed is there, or at an
orderly end; what arrives without delay is read whatever the deadline.
-/
import CertRotation.Net.Stream
import CertRotation.Proofs.Text.Utf8

namespace CertRotation.Net

open Text

/-! ## The octet of a line feed -/

theorem lineFeed_mem_encode {s : List Char} : lineFeed ∈ Utf8.encode s ↔ '\n' ∈ s :=
  Utf8.mem_encode (d := '\n') (by decide)

theorem encode_lineFeed : Utf8.encode ['\n'] = [lineFeed] := rfl

theorem firstLine_append {b : Bytes} (h : lineFeed ∉ b) (r : Bytes) :
    firstLine (b ++ lineFeed :: r) = b ++ [lineFeed] := by
  induction b with
  | nil => rw [List.nil_append, firstLine, if_pos rfl, List.nil_append]
  | cons a b ih =>
      have ha : a ≠ lineFeed := fun e => h (e ▸ List.mem_cons_self)
      rw [List.cons_append, firstLine, if_neg ha, ih fun hmem => h (List.mem_cons_of_mem a hmem)]
      rfl

theorem firstLine_of_not_mem {b : Bytes} (h : lineFeed ∉ b) : firstLine b = b := by
  induction b with
  | nil => rfl
  | cons a b ih =>
      have ha : a ≠ lineFeed := fun e => h (e ▸ List.mem_cons_self)
      rw [firstLine, if_neg ha, ih fun hmem => h (List.mem_cons_of_mem a hmem)]

/-- Cutting at a length and cutting at the first line feed can change places. -/
theorem firstLine_take (n : Nat) (b : Bytes) : firstLine (b.take n) = (firstLine b).take n := by
  induction b generalizing n with
  | nil => rw [List.take_nil, firstLine, List.take_nil]
  | cons a b ih =>
      cases n with
      | zero => rw [List.take_zero, List.take_zero, firstLine]
      | succ n =>
          rw [List.take_succ_cons, firstLine, firstLine]
          by_cases ha : a = lineFeed
          · rw [if_pos ha, if_pos ha, List.take_succ_cons, List.take_nil]
          · rw [if_neg ha, if_neg ha, List.take_succ_cons, ih]

theorem firstLine_firstLine (b : Bytes) : firstLine (firstLine b) = firstLine b := by
  induction b with
  | nil => rfl
  | cons a b ih =>
      rw [firstLine]
      by_cases ha : a = lineFeed
      · rw [if_pos ha, firstLine, if_pos ha]
      · rw [if_neg ha, firstLine, if_neg ha, ih]

/-- A first line that ends with its line feed goes no further, whatever follows. -/
theorem firstLine_append_of_mem {b : Bytes} (h : lineFeed ∈ b) (r : Bytes) :
    firstLine (b ++ r) = firstLine b := by
  induction b with
  | nil => exact absurd h List.not_mem_nil
  | cons a b ih =>
      rw [List.cons_append, firstLine, firstLine]
      by_cases ha : a = lineFeed
      · rw [if_pos ha, if_pos ha]
      · rw [if_neg ha, if_neg ha, ih ((List.mem_cons.mp h).resolve_left (Ne.symm ha))]

namespace Stream

/-! ## Reading -/

theorem readLine_of_mem {s : Stream} (h : lineFeed ∈ s.octets) :
    s.readLine = some (.ok (firstLine s.octets)) := by
  unfold readLine
  rw [if_pos h]

/-- At its orderly end a stream has a line, with a line feed or without. -/
theorem readLine_closed (b : Bytes) : readLine ⟨b, .closed⟩ = some (.ok (firstLine b)) := by
  by_cases h : lineFeed ∈ b
  · exact readLine_of_mem h
  · unfold readLine
    rw [if_neg h, firstLine_of_not_mem h]

section
variable {s : List Char}

/-- A line is read up to its line feed, whatever follows and however it ends. -/
theorem readText_line (h : '\n' ∉ s) (r : Bytes) (e : Ending) :
    readText ⟨Utf8.encode s ++ lineFeed :: r, e⟩ = some (.ok (s ++ ['\n'])) := by
  have hmem : lineFeed ∈ Utf8.encode s ++ lineFeed :: r :=
    List.mem_append_right _ List.mem_cons_self
  have hnot : lineFeed ∉ Utf8.encode s := fun hs => h (lineFeed_mem_encode.mp hs)
  have hwhole : Utf8.encode s ++ [lineFeed] = Utf8.encode (s ++ ['\n']) := by
    rw [Utf8.encode_append, encode_lineFeed]
  unfold readText readLine
  rw [if_pos hmem, firstLine_append hnot, hwhole]
  simp only [Option.map_some, Utf8.decode?_encode]

/-- Without a line feed, all of a text is read when it ends. -/
theorem readText_closed (h : '\n' ∉ s) :
    readText ⟨Utf8.encode s, .closed⟩ = some (.ok s) := by
  have hnot : lineFeed ∉ Utf8.encode s := fun hs => h (lineFeed_mem_encode.mp hs)
  unfold readText readLine
  rw [if_neg hnot]
  simp only [Option.map_some, Utf8.decode?_encode]

end

/-- What arrives without delay is there before any deadline. -/
theorem upTo_arrivals (deadline : Nat) (s : Stream) : upTo deadline s.arrivals = s := by
  have hnow : ¬ deadline < 0 := Nat.not_lt_zero deadline
  obtain ⟨octets, ending⟩ := s
  cases ending with
  | closed => simp only [arrivals, upTo, hnow, if_false, List.append_nil]
  | broken c => simp only [arrivals, upTo, hnow, if_false, List.append_nil]
  | pending => simp only [arrivals, upTo, hnow, if_false, List.append_nil]

end Stream
end CertRotation.Net
