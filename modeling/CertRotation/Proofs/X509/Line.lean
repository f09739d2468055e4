/-
# `Proofs.X509.Line` — the line for logs tells all it is made of

Whoever makes a certificate chooses the names in it, so a name may look like the end of a name, like
the fields behind it or like another line.  None of that shows in the line:

    every character of a line has a glyph                        (`all_isPrintable_line`)
    the text of each field ends where its mark is found first    (`fields?_line`)
    a line is read as its description, and no other text is      (`read?_eq_some_iff`)

A quoted name ends at its own quote, a serial number holds digits only, and a time neither a space nor
a bracket.  The times are recovered from their texts because a certificate's bounds are counts of
times that the calendar has (`dated_of_ofDer?`).
-/
import Mathlib.Data.List.Basic
import CertRotation.Proofs.Text.Quoted
import CertRotation.Proofs.X509.Validity
import CertRotation.X509.Line

namespace CertRotation.Text

theorem isSingleLine_of_isPrintable {s : List Char} (h : s.all isPrintable = true) :
    IsSingleLine s := by
  intro c hc
  have hglyph := List.all_eq_true.mp h c hc
  refine ⟨?_, ?_, ?_⟩
  · simp only [isPrintable, isControl, Bool.or_eq_true, Bool.and_eq_true, decide_eq_true_eq,
      Bool.or_eq_false_iff, Bool.and_eq_false_iff, decide_eq_false_iff_not] at hglyph ⊢
    omega
  · rintro rfl
    exact absurd hglyph (by decide)
  · rintro rfl
    exact absurd hglyph (by decide)

theorem isPrintable_of_isTimeChar {c : Char} (h : CalendarTime.isTimeChar c = true) :
    isPrintable c = true := by
  have hmarks : "-+:T".toList.all isPrintable = true := by decide
  rcases Bool.or_eq_true_iff.mp h with hdigit | hmark
  · exact Decimal.isPrintable_of_isDigit hdigit
  · exact List.all_eq_true.mp hmarks c (List.contains_iff_mem.mp hmark)

end CertRotation.Text

namespace CertRotation.X509.Description

open Asn1 Text

/-! ## The texts of the fields -/

/-- A line from the front, with the mark that each field ends at. -/
theorem line_eq (d : Description) : d.line =
    "subject=".toList ++ (Quoted.encode d.subject.toList ++ (" issuer=".toList ++
      (Quoted.encode d.issuer.toList ++ (" serial=".toList ++ (Decimal.write d.serial ++
        ' ' :: ("valid=[".toList ++ (writeTime d.notBefore ++ ' ' :: ("~ ".toList ++
          (writeTime d.notAfter ++ ']' :: []))))))))) := by
  have hvalid : " valid=[".toList = ' ' :: "valid=[".toList := by decide
  have hto : " ~ ".toList = ' ' :: "~ ".toList := by decide
  unfold line
  simp only [hvalid, hto, List.append_assoc, List.cons_append]

theorem not_mem_writeTime {c : Char} (h : CalendarTime.isTimeChar c = false) (n : Int) :
    c ∉ writeTime n := by
  intro hmem
  rw [List.all_eq_true.mp (CalendarTime.all_isTimeChar_write _) c hmem] at h
  cases h

theorem isPrefixOf?_append (p r : List Char) : p.isPrefixOf? (p ++ r) = some r :=
  List.isPrefixOf?_eq_some_iff_append_eq.mpr rfl

theorem fields?_line (d : Description) : fields? d.line =
    some (d.subject.toList, d.issuer.toList, Decimal.write d.serial, writeTime d.notBefore,
      writeTime d.notAfter) := by
  -- The mark that ends a field is not in it; a name may hold anything, but it is quoted.
  have hserial : ' ' ∉ Decimal.write d.serial := (Decimal.spells_write _).not_mem (by decide)
  have hnotBefore : ' ' ∉ writeTime d.notBefore := not_mem_writeTime (by decide) _
  have hnotAfter : ']' ∉ writeTime d.notAfter := not_mem_writeTime (by decide) _
  simp only [fields?, line_eq, isPrefixOf?_append, Quoted.read?_encode, splitFirst_append hserial,
    splitFirst_append hnotBefore, splitFirst_append hnotAfter, Option.bind_eq_bind, Option.bind_some]

/-! ## A line shows, and reads back -/

theorem all_isPrintable_line (d : Description) : d.line.all isPrintable = true := by
  have hname (s : List Char) : (Quoted.encode s).all isPrintable = true :=
    List.all_eq_true.mpr fun c hc => Quoted.isPrintable_of_mem_encode hc
  have hserial : (Decimal.write d.serial).all isPrintable = true :=
    List.all_eq_true.mpr fun c hc => Decimal.isPrintable_of_isDigit (Decimal.isDigit_of_mem_write hc)
  have htime (n : Int) : (writeTime n).all isPrintable = true :=
    List.all_eq_true.mpr fun c hc =>
      isPrintable_of_isTimeChar (List.all_eq_true.mp (CalendarTime.all_isTimeChar_write _) c hc)
  unfold line
  simp only [List.all_append, hname, hserial, htime]
  decide

theorem read?_writeTime {t : CalendarTime} (ht : t.isValid = true) {n : Int} (hn : n = t.toUnix) :
    CalendarTime.read? (writeTime n) = some t := by
  rw [hn, writeTime, CalendarTime.ofUnix_toUnix ht]
  exact CalendarTime.read?_of_spelled (CalendarTime.spelled_write ht)

/-- Both bounds are counts of times that the calendar has. -/
def Dated (d : Description) : Prop :=
  ∀ b : Bound, ∃ t : CalendarTime, t.isValid = true ∧ b.seconds d = t.toUnix

theorem dated_of_ofDer? {der : Bytes} {d : Description} (h : ofDer? der = some d) : d.Dated := by
  intro b
  obtain ⟨t, -, ht, hseconds⟩ := b.time_of_ofDer? h
  exact ⟨t, ht, hseconds⟩

section
variable {d d' : Description}

theorem Dated.found?_line (h : d.Dated) : found? d.line = some d := by
  obtain ⟨t, ht, hnotBefore⟩ := h .notBefore
  obtain ⟨u, hu, hnotAfter⟩ := h .notAfter
  simp only [Bound.seconds] at hnotBefore hnotAfter
  simp only [found?, fields?_line, Decimal.digits?_write, read?_writeTime ht hnotBefore,
    read?_writeTime hu hnotAfter, Option.bind_eq_bind, Option.bind_some, String.ofList_toList,
    ← hnotBefore, ← hnotAfter]

/-- A line is read as its description, and no other text is. -/
theorem Dated.read?_eq_some_iff (h : d.Dated) {text : String} :
    read? text = some d ↔ text = d.write := by
  rw [read?, Option.filter_eq_some_iff, decide_eq_true_iff]
  constructor
  · rintro ⟨-, hwrite⟩
    exact hwrite.symm
  · rintro rfl
    rw [write, String.toList_ofList]
    exact ⟨h.found?_line, rfl⟩

theorem Dated.write_inj (h : d.Dated) (h' : d'.Dated) : d.write = d'.write ↔ d = d' := by
  constructor
  · intro hwrite
    have hread : read? d.write = some d := h.read?_eq_some_iff.mpr rfl
    have hread' : read? d.write = some d' := h'.read?_eq_some_iff.mpr hwrite
    exact Option.some.inj (hread.symm.trans hread')
  · exact congrArg write

end

/-- The line of a certificate that is described is a single line, whatever its names are.  Two
certificates have one line exactly if their five fields agree, and the fields are recovered from the
line: it is the one text that is read as the description. -/
theorem line_determines_fields {der der' : Bytes} {d d' : Description} (h : ofDer? der = some d)
    (h' : ofDer? der' = some d') :
    IsSingleLine d.write.toList ∧
    (d.write = d'.write ↔ d.subject = d'.subject ∧ d.issuer = d'.issuer ∧ d.serial = d'.serial ∧
      d.notBefore = d'.notBefore ∧ d.notAfter = d'.notAfter) ∧
    ∀ text, read? text = some d ↔ text = d.write := by
  have hdated := dated_of_ofDer? h
  refine ⟨?_, ?_, fun text => hdated.read?_eq_some_iff⟩
  · rw [write, String.toList_ofList]
    exact isSingleLine_of_isPrintable (all_isPrintable_line d)
  · rw [hdated.write_inj (dated_of_ofDer? h')]
    cases d
    cases d'
    rw [mk.injEq]

/-! ### Names that look like fields -/

/-- A certificate of two common names, with no more in it than must be. -/
def named (subject issuer : String) : Bytes :=
  let value (tag content : Bytes) := tag ++ UInt8.ofNat content.length :: content
  let algorithm := value Tag.sequence [0x06, 0x01, 0x01]
  let bits := value Tag.bitString [0]
  let name (s : String) := value Tag.sequence (value Tag.set (value Tag.sequence
    (value Tag.oid commonNameOid ++ value Tag.utf8String (Utf8.encode s.toList))))
  let bound (t : CalendarTime) := value Time.Form.utc.tag (Time.Form.utc.write t)
  let signed := value Tag.sequence ([0x02, 0x01, 0x01] ++ algorithm ++ name issuer ++
    value Tag.sequence (bound firstSecond ++ bound lastSecond) ++ name subject ++
    value Tag.sequence (algorithm ++ bits))
  value Tag.sequence (signed ++ algorithm ++ bits)

/-- Between bare quotes, both pairs of names would be written alike. -/
theorem line_determines_fields_forged : ∃ d d',
    ofDer? (named "a\" issuer=\"b" "c\n") = some d ∧
      ofDer? (named "a" "b\" issuer=\"c\n") = some d' ∧
      IsSingleLine d.write.toList ∧ d.write ≠ d'.write ∧ read? d.write = some d := by
  have hnames : ((ofDer? (named "a\" issuer=\"b" "c\n")).map (·.subject) = some "a\" issuer=\"b") ∧
      ((ofDer? (named "a" "b\" issuer=\"c\n")).map (·.subject) = some "a") := by
    decide +kernel
  obtain ⟨d, h, hsubject⟩ := Option.map_eq_some_iff.mp hnames.1
  obtain ⟨d', h', hsubject'⟩ := Option.map_eq_some_iff.mp hnames.2
  obtain ⟨hsingle, hagree, hread⟩ := line_determines_fields h h'
  refine ⟨d, d', h, h', hsingle, ?_, (hread d.write).mpr rfl⟩
  intro hwrite
  have hforged := (hagree.mp hwrite).1
  rw [hsubject, hsubject'] at hforged
  exact absurd hforged (by decide)

end CertRotation.X509.Description
