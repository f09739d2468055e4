/-
# `Proofs.X509.Validity` — what a description says of a validity

A certificate that is described carries a time for either bound.  It reads the same from both forms,
it is counted as the clock counts, and the line for logs spells it:

    b.Written form t der, form.Covers t.year  →  b.time? der = some t   (`Bound.Written.time?`)
    ofDer? der = some d, b.time? der = some t  →  b.seconds d = t.toUnix  (`Bound.time_of_ofDer?`)

A field may hold a sign in place of a digit, so more times are carried than the forms write.
-/
import CertRotation.X509.Validity
import CertRotation.Proofs.Asn1.Time
import CertRotation.Proofs.Calendar.Text

namespace CertRotation.X509

open Asn1 Text CalendarTime

/-! ## The times of a parsed certificate -/

theorem time?_write {v : Tlv} {form : Time.Form} {t : CalendarTime} (hvalid : t.isValid = true)
    (hcovers : form.Covers t.year) (hident : v.ident = form.tag)
    (hcontent : v.content = form.write t) : Description.time? v = some t := by
  rw [Description.time?, hident, Time.ofTag?_tag, hcontent]
  exact Time.loose?_write hvalid hcovers

theorem isValid_of_time? {v : Tlv} {t : CalendarTime} (h : Description.time? v = some t) :
    t.isValid = true := by
  obtain ⟨form, -, hread⟩ := Option.bind_eq_some_iff.mp h
  exact Time.isValid_of_fields? hread

theorem validity?_eq_some {v : Tlv} {t u : CalendarTime}
    (h : Description.validity? v = some (t, u)) :
    ∃ first last, members? v = some [first, last] ∧ Description.time? first = some t ∧
      Description.time? last = some u := by
  unfold Description.validity? at h
  split at h
  · rename_i first last hmembers
    split at h
    · rename_i hfirst hlast
      cases h
      exact ⟨first, last, hmembers, hfirst, hlast⟩
    · cases h
  · cases h

/-- The signed part of a description's certificate: its fourth field is the validity. -/
theorem validity_of_ofSigned? {v : Tlv} {d : Description} (h : Description.ofSigned? v = some d) :
    ∃ fields a b c validity rest t u, members? v = some fields ∧
      (takeOptional (Tag.explicit 0) fields).2 = a :: b :: c :: validity :: rest ∧
      Description.validity? validity = some (t, u) ∧ d.notBefore = t.toUnix ∧
      d.notAfter = u.toUnix := by
  unfold Description.ofSigned? at h
  split at h
  · cases h
  · rename_i fields hfields
    dsimp only at h
    split at h
    · rename_i hparts
      split at h
      · split at h
        · rename_i hvalidity _
          cases h
          exact ⟨fields, _, _, _, _, _, _, _, hfields, hparts, hvalidity, rfl, rfl⟩
        · cases h
      · cases h
    · cases h

theorem signed_of_ofDer? {der : Bytes} {d : Description} (h : Description.ofDer? der = some d) :
    ∃ certificate r signed rest, next? .display der = some (certificate, r) ∧
      members? certificate = some (signed :: rest) ∧ Description.ofSigned? signed = some d := by
  unfold Description.ofDer? at h
  split at h
  · cases h
  · rename_i certificate r hnext
    split at h
    · rename_i signed alg sig hmembers
      split at h
      · exact ⟨certificate, r, signed, _, hnext, hmembers, h⟩
      · cases h
    · cases h

/-- A certificate that is described carries a time for both bounds, and the description counts
them. -/
theorem bounds_of_ofDer? {der : Bytes} {d : Description} (h : Description.ofDer? der = some d) :
    ∃ first last t u, bounds? der = some (first, last) ∧ Description.time? first = some t ∧
      Description.time? last = some u ∧ d.notBefore = t.toUnix ∧ d.notAfter = u.toUnix := by
  obtain ⟨certificate, r, signed, rest, hnext, hcertificate, hsigned⟩ := signed_of_ofDer? h
  obtain ⟨fields, a, b, c, validity, more, t, u, hfields, hparts, hvalidity, hnotBefore, hnotAfter⟩ :=
    validity_of_ofSigned? hsigned
  obtain ⟨first, last, hbounds, hfirst, hlast⟩ := validity?_eq_some hvalidity
  refine ⟨first, last, t, u, ?_, hfirst, hlast, hnotBefore, hnotAfter⟩
  simp [bounds?, hnext, hcertificate, hfields, hparts, hbounds]

theorem Bound.time_of_ofDer? (b : Bound) {der : Bytes} {d : Description}
    (h : Description.ofDer? der = some d) :
    ∃ t, b.time? der = some t ∧ t.isValid = true ∧ b.seconds d = t.toUnix := by
  obtain ⟨first, last, t, u, hbounds, hfirst, hlast, hnotBefore, hnotAfter⟩ := bounds_of_ofDer? h
  cases b with
  | notBefore =>
      have htime : Bound.notBefore.time? der = some t := by
        rw [Bound.time?, Bound.value?, hbounds]
        exact hfirst
      exact ⟨t, htime, isValid_of_time? hfirst, hnotBefore⟩
  | notAfter =>
      have htime : Bound.notAfter.time? der = some u := by
        rw [Bound.time?, Bound.value?, hbounds]
        exact hlast
      exact ⟨u, htime, isValid_of_time? hlast, hnotAfter⟩

/-- A time that is written in a form that covers it is the time that is carried. -/
theorem Bound.Written.time? {b : Bound} {form : Time.Form} {t : CalendarTime} {der : Bytes}
    (h : b.Written form t der) (hvalid : t.isValid = true) (hcovers : form.Covers t.year) :
    b.time? der = some t := by
  obtain ⟨v, hv, hident, hcontent⟩ := h
  rw [Bound.time?, hv]
  exact time?_write hvalid hcovers hident hcontent

theorem exists_line_eq (d : Description) : ∃ front, d.line =
    front ++ " valid=[".toList ++ Bound.notBefore.shown d ++ " ~ ".toList ++
      Bound.notAfter.shown d ++ [']'] :=
  ⟨_, rfl⟩

/-- One bound each is taken of two certificates that are described.  If both write one time, each in
a form that covers it, then their counts are equal, and they are what the clock needs from the start
of 1970.  In any case both carry times: of an earlier time the count is less, and the line shows a
text for the bound that spells the time and no other. -/
theorem bounds_counted_as_written (b b' : Bound) {der der' : Bytes} {d d' : Description}
    (h : Description.ofDer? der = some d) (h' : Description.ofDer? der' = some d') :
    (∀ form form' t, t.isValid = true → form.Covers t.year → form'.Covers t.year →
      b.Written form t der → b'.Written form' t der' →
        b.seconds d = b'.seconds d' ∧ t.IsSecond (b.seconds d)) ∧
    (∃ t t', b.time? der = some t ∧ b'.time? der' = some t' ∧
      t.isValid = true ∧ t.IsSecond (b.seconds d) ∧
      (t.Before t' ↔ b.seconds d < b'.seconds d') ∧
      ∀ u, Spelled (b.shown d) u ↔ u = t) ∧
    ∃ front, d.line = front ++ " valid=[".toList ++ Bound.notBefore.shown d ++ " ~ ".toList ++
      Bound.notAfter.shown d ++ [']'] := by
  obtain ⟨t, htime, hvalid, hseconds⟩ := b.time_of_ofDer? h
  obtain ⟨t', htime', hvalid', hseconds'⟩ := b'.time_of_ofDer? h'
  refine ⟨?_, ⟨t, t', htime, htime', hvalid, (isSecond_iff hvalid).mpr hseconds, ?_, ?_⟩,
    exists_line_eq d⟩
  · intro form form' u hu hcovers hcovers' hwritten hwritten'
    have ht : t = u := Option.some.inj (htime.symm.trans (hwritten.time? hu hcovers))
    have ht' : t' = u := Option.some.inj (htime'.symm.trans (hwritten'.time? hu hcovers'))
    rw [ht] at hseconds
    rw [ht'] at hseconds'
    exact ⟨hseconds.trans hseconds'.symm, (isSecond_iff hu).mpr hseconds⟩
  · rw [hseconds, hseconds']
    exact before_iff_toUnix_lt hvalid hvalid'
  · intro u
    rw [Bound.shown, hseconds, Description.writeTime, ofUnix_toUnix hvalid]
    exact spelled_write_iff hvalid

/-! ### The hundred years of the short form -/

def firstSecond : CalendarTime := ⟨1950, 1, 1, 0, 0, 0⟩
def lastSecond : CalendarTime := ⟨2049, 12, 31, 23, 59, 59⟩

/-- A certificate of a hundred years, with no more in it than must be. -/
def century (form : Time.Form) : Bytes :=
  let value (tag content : Bytes) := tag ++ UInt8.ofNat content.length :: content
  let algorithm := value Tag.sequence [0x06, 0x01, 0x01]
  let bits := value Tag.bitString [0]
  let bound (t : CalendarTime) := value form.tag (form.write t)
  let signed := value Tag.sequence ([0x02, 0x01, 0x01] ++ algorithm ++ value Tag.sequence [] ++
    value Tag.sequence (bound firstSecond ++ bound lastSecond) ++ value Tag.sequence [] ++
    value Tag.sequence (algorithm ++ bits))
  value Tag.sequence (signed ++ algorithm ++ bits)

theorem century_described (form : Time.Form) :
    ∃ d, Description.ofDer? (century form) = some d := by
  rw [← Option.isSome_iff_exists]
  cases form <;> decide +kernel

theorem century_written (form : Time.Form) :
    Bound.notBefore.Written form firstSecond (century form) ∧
      Bound.notAfter.Written form lastSecond (century form) := by
  cases form with
  | utc => decide +kernel
  | generalized => decide +kernel

theorem bounds_counted_as_written_1950 : ∃ d d',
    Description.ofDer? (century .utc) = some d ∧
      Description.ofDer? (century .generalized) = some d' ∧
      (d.notBefore = d'.notBefore ∧ firstSecond.IsSecond d.notBefore) ∧
      (d.notAfter = d'.notAfter ∧ lastSecond.IsSecond d.notAfter) := by
  obtain ⟨d, h⟩ := century_described .utc
  obtain ⟨d', h'⟩ := century_described .generalized
  obtain ⟨hfirst, hlast⟩ := century_written .utc
  obtain ⟨hfirst', hlast'⟩ := century_written .generalized
  refine ⟨d, d', h, h', ?_, ?_⟩
  · exact (bounds_counted_as_written .notBefore .notBefore h h').1 .utc .generalized firstSecond
      (by decide) (by decide) (by decide) hfirst hfirst'
  · exact (bounds_counted_as_written .notAfter .notAfter h h').1 .utc .generalized lastSecond
      (by decide) (by decide) (by decide) hlast hlast'

end CertRotation.X509
