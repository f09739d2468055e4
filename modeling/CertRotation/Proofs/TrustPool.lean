/-
# `Proofs.TrustPool` — the pool of a bundle, block by block

The pool of a text and the events of reading it follow from the pieces of the text: the roots are those
of its certificate blocks, in order and with repetitions, one event stands for each damage, and the
last event counts roots and whatever was passed over (`ofPem_of_reads`).

Where blocks are whole, two bundles do not see each other.  A block that is cut off is another matter:
the scan keeps its text, and the block that follows is read as if it began with it (`exists_reads_behind`).
So a damage costs at most the root that comes next, and it costs none if no text is pending; but with
text pending a bundle can lose the only root it has.
-/
import CertRotation.Proofs.Pem
import CertRotation.Proofs.Provisioning
import CertRotation.TrustPool.Bundle

namespace CertRotation

open Pem X509

/-! ## Roots and counts of pieces -/

namespace Pem

theorem Label.ofText?_eq_some_iff {t : Bytes} {l : Label} :
    Label.ofText? t = some l ↔ t = ascii l.text := by
  constructor
  · intro h
    have hfound := List.find?_some h
    exact (eq_of_beq hfound).symm
  · rintro rfl
    cases l <;> rfl

namespace Piece

theorem root?_eq (p : Piece) :
    p.root? = p.certificate?.bind fun der => (TrustAnchor.ofDer der).toOption := by
  cases p with
  | other line outside => rfl
  | broken before line begins illFormed => rfl
  | block before last closing closes =>
      simp only [root?, certificate?, decoded?, block?, Option.bind_some]
      by_cases hlabel : last.label = ascii Label.certificate.text
      · rw [if_pos hlabel, Label.ofText?_eq_some_iff.mpr hlabel]
        cases Base64.decode? (Stretch.textOf before ++ last.text) with
        | none => rfl
        | some der => rfl
      · rw [if_neg hlabel]
        cases hl : Label.ofText? last.label with
        | none => rfl
        | some l =>
            have hne : l ≠ .certificate := by
              rintro rfl
              exact hlabel (Label.ofText?_eq_some_iff.mp hl)
            cases Base64.decode? (Stretch.textOf before ++ last.text) with
            | none => rfl
            | some der => simp [hne]

theorem isRejected_eq (p : Piece) :
    p.isRejected = (p.certificate?.isSome && p.root?.isNone) := by
  cases p with
  | other line outside => rfl
  | broken before line begins illFormed => rfl
  | block before last closing closes =>
      simp only [isRejected, certificate?, decoded?, block?, Option.any_some, Option.bind_some]
      congr 1
      by_cases hlabel : last.label = ascii Label.certificate.text
      · rw [Label.ofText?_eq_some_iff.mpr hlabel, hlabel, beq_self_eq_true]
        cases Base64.decode? (Stretch.textOf before ++ last.text) with
        | none => rfl
        | some der => rfl
      · rw [beq_false_of_ne hlabel]
        cases hl : Label.ofText? last.label with
        | none => rfl
        | some l =>
            have hne : l ≠ .certificate := by
              rintro rfl
              exact hlabel (Label.ofText?_eq_some_iff.mp hl)
            cases Base64.decode? (Stretch.textOf before ++ last.text) with
            | none => rfl
            | some der => simp [hne]

/-- In a piece that is no torso nothing can be wrong but its base64. -/
theorem isUndecodable_eq {p : Piece} (h : p.IsWhole) : p.isUndecodable = p.fault?.isSome := by
  cases p with
  | other line outside => rfl
  | broken before line begins illFormed => exact absurd h id
  | block before last closing closes =>
      simp only [isUndecodable, fault?, block?, Option.any_some]
      cases (Label.ofText? last.label).isSome with
      | false => rfl
      | true =>
          cases Base64.decode? (Stretch.textOf before ++ last.text) with
          | none => rfl
          | some der => rfl

end Piece

/-! ## Counts -/

/-- Each mark is a certificate or a damage. -/
theorem length_marks (ps : List Piece) :
    (ps.filterMap Piece.mark?).length =
      (ps.filterMap Piece.certificate?).length + (ps.filterMap Piece.fault?).length := by
  induction ps with
  | nil => rfl
  | cons p ps ih =>
      cases hcert : p.certificate? with
      | some der =>
          have hfault : p.fault? = none := Piece.fault?_of_certificate hcert
          have hmark : p.mark? = some (.ok der) := by rw [Piece.mark?, hcert]; rfl
          rw [List.filterMap_cons_some hmark, List.filterMap_cons_some hcert,
            List.filterMap_cons_none hfault, List.length_cons, List.length_cons, ih]
          omega
      | none =>
          cases hfault : p.fault? with
          | some f =>
              have hmark : p.mark? = some (.error f) := by rw [Piece.mark?, hcert, hfault]; rfl
              rw [List.filterMap_cons_some hmark, List.filterMap_cons_none hcert,
                List.filterMap_cons_some hfault, List.length_cons, List.length_cons, ih]
              omega
          | none =>
              have hmark : p.mark? = none := by rw [Piece.mark?, hcert, hfault]; rfl
              rw [List.filterMap_cons_none hmark, List.filterMap_cons_none hcert,
                List.filterMap_cons_none hfault, ih]

/-- Each certificate is a root or is rejected. -/
theorem length_certificates (r : Reading) :
    r.certificates.length = r.roots.length + r.rejected := by
  rw [Reading.certificates, Reading.roots, Reading.rejected]
  induction r.pieces with
  | nil => rfl
  | cons p ps ih =>
      have hrejected := p.isRejected_eq
      have hroot := p.root?_eq
      cases hcert : p.certificate? with
      | none =>
          rw [hcert, Option.bind_none] at hroot
          rw [hcert] at hrejected
          rw [List.filterMap_cons_none hcert, List.filterMap_cons_none hroot,
            List.countP_cons_of_neg (by rw [hrejected]; exact Bool.false_ne_true), ih]
      | some der =>
          rw [hcert] at hrejected
          cases hanchor : p.root? with
          | none =>
              rw [hanchor] at hrejected
              rw [List.filterMap_cons_some hcert, List.filterMap_cons_none hanchor,
                List.countP_cons_of_pos hrejected, List.length_cons, ih]
              omega
          | some a =>
              rw [hanchor] at hrejected
              rw [List.filterMap_cons_some hcert, List.filterMap_cons_some hanchor,
                List.countP_cons_of_neg (by rw [hrejected]; exact Bool.false_ne_true),
                List.length_cons, List.length_cons, ih]
              omega

end Pem

/-! ## The pool of a text -/

namespace TrustPool

section
variable {s : Bytes} {r : Reading}

theorem decoded_of_reads (h : r.Reads s) : decoded (certificates s) = r.certificates := by
  rw [decoded, certificates_of_reads h, List.filterMap_append, List.filterMap_filterMap]
  have hend : (r.endFault?.map Except.error).toList.filterMap
      (Except.toOption : Except Pem.Fault Bytes → Option Bytes) = [] := by
    cases r.endFault? with
    | none => rfl
    | some f => rfl
  rw [hend, List.append_nil, Reading.certificates]
  congr 1
  funext p
  cases hcert : p.certificate? with
  | some der => rw [Piece.mark?, hcert]; rfl
  | none =>
      cases hfault : p.fault? with
      | none => rw [Piece.mark?, hcert, hfault]; rfl
      | some f => rw [Piece.mark?, hcert, hfault]; rfl

theorem anchors_certificates (r : Reading) : anchors r.certificates = r.roots := by
  rw [anchors, Reading.certificates, List.filterMap_filterMap, Reading.roots]
  congr 1
  funext p
  exact p.root?_eq.symm

theorem length_of_reads (h : r.Reads s) :
    (certificates s).length = r.certificates.length + r.faults.length := by
  have hend : (r.endFault?.map (Except.error : Pem.Fault → Except Pem.Fault Bytes)).toList.length =
      r.endFault?.toList.length := by
    cases r.endFault? with
    | none => rfl
    | some f => rfl
  rw [certificates_of_reads h, List.length_append, length_marks, hend, Reading.certificates,
    Reading.faults, List.length_append]
  omega

/-- The pool of a text and the events of reading it, by its pieces. -/
theorem ofPem_of_reads (h : r.Reads s) (path : String) :
    (ofPem s path).1.map (·.roots) =
      (if r.roots = [] then .error (.missingOrInvalidRoot path none) else .ok r.roots) ∧
    (ofPem s path).2 = List.replicate r.faults.length (.skippedBlock path) ++
      [.rootsLoaded r.roots.length path (r.faults.length + r.rejected)] := by
  constructor
  · simp only [ofPem, decoded_of_reads h, anchors_certificates]
    by_cases hroots : r.roots = []
    · rw [dif_neg (fun hne => hne hroots), if_pos hroots]
      rfl
    · rw [dif_pos hroots, if_neg hroots]
      rfl
  · have hlength := length_of_reads h
    have hcerts := length_certificates r
    simp only [ofPem, events, decoded_of_reads h, anchors_certificates]
    congr 2
    · omega
    · congr 1
      omega

end

/-! ## Bundles of whole blocks -/

theorem length_faults_of_bundle {r : Reading} (h : r.IsBundle) : r.faults.length = r.undecodable := by
  have hend : r.endFault? = none := by
    rw [Reading.endFault?, h.ended]
    rfl
  rw [Reading.faults, hend, List.length_append, List.length_filterMap_eq_countP,
    Reading.undecodable]
  refine List.countP_congr fun p hp => ?_
  rw [Piece.isUndecodable_eq (h.whole p hp)]

/-- The end of the last line bears on no root and on no count. -/
theorem roots_standsBefore {r₀ r : Reading} (h : r₀.StandsBefore r) :
    r₀.roots = r.roots ∧ r₀.undecodable = r.undecodable ∧ r₀.rejected = r.rejected := by
  rcases h.pieces with hpieces | ⟨outside, hpieces⟩
  · simp only [Reading.roots, Reading.undecodable, Reading.rejected, hpieces, and_self]
  · refine ⟨?_, ?_, ?_⟩
    · rw [Reading.roots, Reading.roots, hpieces, List.filterMap_append]
      exact (List.append_nil _).symm
    · rw [Reading.undecodable, Reading.undecodable, hpieces, List.countP_append]
      rfl
    · rw [Reading.rejected, Reading.rejected, hpieces, List.countP_append]
      rfl

/-- Two bundles, the first of which ends its last line, are read one after the other. -/
theorem exists_reads_append {s t : Bytes} {r q : Reading} (hs : EndsLine s) (hr : r.Reads s)
    (hq : q.Reads t) (hb : r.IsBundle) (hb' : q.IsBundle) :
    ∃ u : Reading, u.Reads (s ++ t) ∧ u.IsBundle ∧ u.roots = r.roots ++ q.roots ∧
      u.undecodable = r.undecodable + q.undecodable ∧ u.rejected = r.rejected + q.rejected := by
  -- The last, empty line of the first text is none of both together.
  obtain ⟨r₀, hr₀, hlines⟩ := exists_standsBefore hr hs
  obtain ⟨hroots, hundecodable, hrejected⟩ := roots_standsBefore hr₀
  have hwhole : ∀ p ∈ r₀.pieces, p.IsWhole := by
    intro p hp
    refine hb.whole p ?_
    rcases hr₀.pieces with hpieces | ⟨outside, hpieces⟩
    · rw [hpieces]
      exact hp
    · rw [hpieces]
      exact List.mem_append_left _ hp
  refine ⟨⟨r₀.pieces ++ q.pieces, []⟩, ?_, ⟨?_, rfl⟩, ?_, ?_, ?_⟩
  · have hq' : lines t = q.lines := hq
    rw [Reading.Reads, hlines t, hq', Reading.lines, Reading.lines, Reading.lines,
      hr₀.ended hb.ended, hb'.ended, List.flatMap_append]
    simp only [List.flatMap_nil, List.append_nil]
  · intro p hp
    rcases List.mem_append.mp hp with hp | hp
    · exact hwhole p hp
    · exact hb'.whole p hp
  · rw [← hroots]
    exact List.filterMap_append
  · rw [← hundecodable]
    exact List.countP_append
  · rw [← hrejected]
    exact List.countP_append

theorem ofPem_of_bundle {s : Bytes} {r : Reading} (hr : r.Reads s) (hb : r.IsBundle)
    (path : String) :
    (ofPem s path).1.map (·.roots) =
      (if r.roots = [] then .error (.missingOrInvalidRoot path none) else .ok r.roots) ∧
    (ofPem s path).2 = List.replicate r.undecodable (.skippedBlock path) ++
      [.rootsLoaded r.roots.length path (r.undecodable + r.rejected)] := by
  have h := ofPem_of_reads hr path
  rw [length_faults_of_bundle hb] at h
  exact h

/-- The pool of a bundle has the roots of exactly those certificate blocks whose text is base64 of a
trust anchor, in order and with repetitions; without any there is no pool, and the error names the
path and no cause.  One event stands for each block of a known label whose text is not base64, and the
last event counts the roots and, as ignored, those blocks and the certificates that are no anchors.
Of a bundle that ends its last line and another one behind it, the roots are those of the one and then
those of the other, and the counts add up. -/
theorem pool_of_bundle {s : Bytes} {r : Reading} (hr : r.Reads s) (hb : r.IsBundle)
    (path : String) :
    (ofPem s path).1.map (·.roots) =
      (if r.roots = [] then .error (.missingOrInvalidRoot path none) else .ok r.roots) ∧
    (ofPem s path).2 = List.replicate r.undecodable (.skippedBlock path) ++
      [.rootsLoaded r.roots.length path (r.undecodable + r.rejected)] ∧
    ∀ (t : Bytes) (q : Reading), q.Reads t → q.IsBundle → EndsLine s →
      (ofPem (s ++ t) path).1.map (·.roots) =
        (if r.roots = [] ∧ q.roots = [] then .error (.missingOrInvalidRoot path none)
          else .ok (r.roots ++ q.roots)) ∧
      (ofPem (s ++ t) path).2 =
        List.replicate (r.undecodable + q.undecodable) (.skippedBlock path) ++
          [.rootsLoaded (r.roots.length + q.roots.length) path
            ((r.undecodable + r.rejected) + (q.undecodable + q.rejected))] := by
  obtain ⟨hpool, hevents⟩ := ofPem_of_bundle hr hb path
  refine ⟨hpool, hevents, ?_⟩
  intro t q hq hb' hs
  obtain ⟨u, hu, hub, hroots, hundecodable, hrejected⟩ := exists_reads_append hs hr hq hb hb'
  obtain ⟨hpool, hevents⟩ := ofPem_of_bundle hu hub path
  rw [hroots] at hpool
  rw [hroots, hundecodable, hrejected, List.length_append] at hevents
  constructor
  · rw [hpool]
    simp only [List.append_eq_nil_iff]
  · rw [hevents]
    congr 3
    omega

/-! ### A damaged block and a certificate -/

/-- A block of a known label whose text is not base64. -/
def damagedBlock : Bytes :=
  ascii "-----BEGIN PUBLIC KEY-----\n!\n-----END PUBLIC KEY-----\n"

def damagedReading : Reading where
  pieces := [.plain (ascii "PUBLIC KEY") [ascii "!"] (by decide) (by decide), .other [] rfl]
  cutOff := []

/-- The certificate of a version, by its lines. -/
def certificateReading : Reading where
  pieces :=
    [.plain (ascii "CERTIFICATE") ((lines Provisioning.firstVersion.cert).tail.take 5) (by decide)
      (by decide +kernel), .other [] rfl]
  cutOff := []

theorem certificateReading_reads : certificateReading.Reads Provisioning.firstVersion.cert := by
  decide +kernel

theorem certificateReading_counts : certificateReading.roots.length = 1 ∧
    certificateReading.undecodable = 0 ∧ certificateReading.rejected = 0 := by
  decide +kernel

theorem isBundle_plain {label : Bytes} {body : List Bytes}
    {hlabel : label.getLast? ≠ some 0x2D ∧ label.getLast? ≠ some 0x20}
    {hbody : ∀ line ∈ body, isBegin line = false ∧ isEnd label line = false} (outside) :
    Reading.IsBundle ⟨[.plain label body hlabel hbody, .other [] outside], []⟩ where
  whole := by
    intro p hp
    rcases List.mem_cons.mp hp with rfl | hp
    · exact rfl
    · rw [List.mem_singleton.mp hp]
      exact trivial
  ended := rfl

/-- The damaged block is skipped and counted, and the certificate behind it is the only root. -/
theorem pool_of_bundle_damaged :
    damagedReading.Reads damagedBlock ∧ damagedReading.IsBundle ∧ EndsLine damagedBlock ∧
    certificateReading.Reads Provisioning.firstVersion.cert ∧ certificateReading.IsBundle ∧
    certificateReading.roots.length = 1 ∧
    (ofPem (damagedBlock ++ Provisioning.firstVersion.cert) "root.crt").1.map (·.roots) =
      .ok certificateReading.roots ∧
    (ofPem (damagedBlock ++ Provisioning.firstVersion.cert) "root.crt").2 =
      [.skippedBlock "root.crt", .rootsLoaded 1 "root.crt" 1] := by
  have hreads : damagedReading.Reads damagedBlock := by decide +kernel
  have hends : EndsLine damagedBlock := by decide +kernel
  obtain ⟨hroots, hundecodable, hrejected⟩ := certificateReading_counts
  obtain ⟨-, -, hjoined⟩ := pool_of_bundle hreads (isBundle_plain rfl) "root.crt"
  obtain ⟨hpool, hevents⟩ := hjoined Provisioning.firstVersion.cert certificateReading
    certificateReading_reads (isBundle_plain rfl) hends
  refine ⟨hreads, isBundle_plain rfl, hends, certificateReading_reads, isBundle_plain rfl, hroots,
    ?_, ?_⟩
  · have hne : certificateReading.roots ≠ [] := List.ne_nil_of_length_pos (by rw [hroots]; decide)
    have hdamaged : damagedReading.roots = [] := List.eq_nil_of_length_eq_zero (by decide +kernel)
    rw [hpool, if_neg (fun h => hne h.2), hdamaged, List.nil_append]
  · rw [hevents, hroots, hundecodable, hrejected]
    rfl

/-- A block of an unknown label whose text is not base64. -/
def foreignBlock : Bytes :=
  ascii "-----BEGIN X-----\n!\n-----END X-----\n"

def foreignReading : Reading where
  pieces := [.plain (ascii "X") [ascii "!"] (by decide) (by decide), .other [] rfl]
  cutOff := []

/-- A block whose END line is not ended. -/
def openLine : Bytes :=
  ascii "-----BEGIN X-----\n-----END X-----"

def openReading : Reading where
  pieces := [.plain (ascii "X") [] (by decide) (by decide)]
  cutOff := []

/-- A block of an unknown label is passed over without a word, whatever its text is.  And a bundle whose
last line is not ended takes the first line of the next one for a part of its own. -/
theorem foreign_block_uncounted :
    (foreignReading.Reads foreignBlock ∧ foreignReading.IsBundle ∧
      foreignReading.pieces.filterMap Piece.block? = [(ascii "X", ascii "!")] ∧
      Base64.decode? (ascii "!") = none ∧
      (ofPem foreignBlock "root.crt").2 = [.rootsLoaded 0 "root.crt" 0]) ∧
    openReading.Reads openLine ∧ openReading.IsBundle ∧
      certificateReading.Reads Provisioning.firstVersion.cert ∧ certificateReading.IsBundle ∧
      certificateReading.roots.length = 1 ∧
      (ofPem (openLine ++ Provisioning.firstVersion.cert) "root.crt").1.map (·.roots.length) =
        .error (.missingOrInvalidRoot "root.crt" none) := by
  refine ⟨⟨?_, isBundle_plain rfl, ?_, ?_, ?_⟩, ?_, ⟨?_, rfl⟩, certificateReading_reads,
    isBundle_plain rfl, certificateReading_counts.1, ?_⟩
  · decide +kernel
  · decide +kernel
  · decide +kernel
  · decide +kernel
  · decide +kernel
  · intro p hp
    rw [List.mem_singleton.mp hp]
    exact rfl
  · decide +kernel

/-! ## A bundle behind a damage -/

/-- A text that starts as a BEGIN line does has one for its first line. -/
theorem exists_begin_line {s : Bytes} (h : beginMark <+: s) :
    ∃ line rest, lines s = line :: rest ∧ isBegin line = true := by
  obtain ⟨t, rfl⟩ := h
  obtain ⟨l, ls, hlines⟩ := exists_lines_of_inline (m := beginMark) (by decide) t
  refine ⟨beginMark ++ l, ls, hlines, ?_⟩
  rw [isBegin, after?_append]
  rfl

theorem lines_ne_nil (p : Piece) : p.lines ≠ [] := by
  cases p with
  | other line outside => exact List.cons_ne_nil line []
  | block before last closing closes => simp [Piece.lines, Stretch.lines]
  | broken before line begins illFormed => simp [Piece.lines]

/-- A piece that starts with a BEGIN line takes what is open before it for its own. -/
theorem lines_behind {p : Piece} {line : Bytes} {rest : List Bytes} (h : p.lines = line :: rest)
    (hbegin : isBegin line = true) (ts : List Stretch) :
    (p.behind ts).lines = ts.flatMap Stretch.lines ++ p.lines := by
  cases p with
  | other other outside =>
      obtain rfl : other = line := List.head_eq_of_cons_eq h
      rw [outside] at hbegin
      nomatch hbegin
  | block before last closing closes =>
      rw [Piece.behind, Piece.lines, Piece.lines, List.flatMap_append, List.append_assoc]
  | broken before line begins illFormed =>
      rw [Piece.behind, Piece.lines, Piece.lines, List.flatMap_append, List.append_assoc]

theorem decode?_blank {blank : Bytes} (h : ∀ b ∈ blank, Base64.isBlank b = true) (t : Bytes) :
    Base64.decode? (blank ++ t) = Base64.decode? t := by
  have hnone : blank.filter (!Base64.isBlank ·) = [] := by
    rw [List.filter_eq_nil_iff]
    intro b hb
    rw [h b hb]
    exact Bool.false_ne_true
  rw [Base64.decode?, Base64.decode?, List.filter_append, hnone, List.nil_append]

/-- Of what is open before a piece only the text bears on its root. -/
theorem root?_behind_congr {ts ts' : List Stretch} (h : Stretch.textOf ts = Stretch.textOf ts')
    (p : Piece) : (p.behind ts).root? = (p.behind ts').root? := by
  cases p with
  | other line outside => rfl
  | broken before line begins illFormed => rfl
  | block before last closing closes =>
      have htext : Stretch.textOf (ts ++ before) = Stretch.textOf (ts' ++ before) := by
        simp only [Stretch.textOf, List.flatMap_append] at h ⊢
        rw [h]
      simp only [Piece.behind, Piece.root?, Piece.block?, htext]

/-- With nothing but blanks pending a piece keeps its root. -/
theorem root?_behind_blank {ts : List Stretch}
    (h : ∀ b ∈ Stretch.textOf ts, Base64.isBlank b = true) (p : Piece) :
    (p.behind ts).root? = p.root? := by
  cases p with
  | other line outside => rfl
  | broken before line begins illFormed => rfl
  | block before last closing closes =>
      have htext : Stretch.textOf (ts ++ before) ++ last.text =
          Stretch.textOf ts ++ (Stretch.textOf before ++ last.text) := by
        simp only [Stretch.textOf, List.flatMap_append, List.append_assoc]
      simp only [Piece.behind, Piece.root?, Piece.block?, Option.bind_some, htext, decode?_blank h]

/-- Behind a text that ends its last line, the first piece of a bundle is read together with what is
open there, and the others as they are. -/
theorem exists_reads_behind {s t : Bytes} {r q : Reading} {p : Piece} {ps : List Piece}
    (hs : EndsLine s) (ht : beginMark <+: t) (hr : r.Reads s) (hq : q.Reads t)
    (hpieces : q.pieces = p :: ps) :
    ∃ u : Reading, u.Reads (s ++ t) ∧
      u.roots = r.roots ++ ((p.behind r.cutOff).root?.toList ++ ps.filterMap Piece.root?) := by
  obtain ⟨r₀, hr₀, hlines⟩ := exists_standsBefore hr hs
  obtain ⟨line, rest, hfirst, hbegin⟩ := exists_begin_line ht
  have hq' : lines t = p.lines ++ (ps.flatMap Piece.lines ++ q.cutOff.flatMap Stretch.lines) := by
    rw [show lines t = q.lines from hq, Reading.lines, hpieces, List.flatMap_cons, List.append_assoc]
  have hbehind : (p.behind r₀.cutOff).lines = r₀.cutOff.flatMap Stretch.lines ++ p.lines := by
    obtain ⟨line', rest', hp⟩ := List.exists_cons_of_ne_nil (lines_ne_nil p)
    rw [hfirst, hp] at hq'
    obtain rfl : line = line' := List.head_eq_of_cons_eq hq'
    exact lines_behind hp hbegin r₀.cutOff
  refine ⟨⟨r₀.pieces ++ p.behind r₀.cutOff :: ps, q.cutOff⟩, ?_, ?_⟩
  · rw [Reading.Reads, hlines t, hq', Reading.lines, Reading.lines, List.flatMap_append,
      List.flatMap_cons, hbehind]
    simp only [List.append_assoc]
  · rw [← (roots_standsBefore hr₀).1, Reading.roots, List.filterMap_append, List.filterMap_cons,
      root?_behind_congr hr₀.text p]
    cases (p.behind r.cutOff).root? with
    | none => rfl
    | some a => rfl

/-- What a bundle that has a pool, and starts with a BEGIN line, still gives behind any text that ends
its last line.  The roots of the text come first.  The first piece of the bundle is read with what the
text has left open before it; the roots of all other pieces are kept.  Where nothing but blanks is
pending, so that the text is no more than complete blocks, other lines, and perhaps a BEGIN line without
a body, all roots of the bundle are kept, and there is a pool. -/
theorem roots_behind_damage {s t : Bytes} {r q : Reading} {path : String} {pool : TrustPool}
    (hs : EndsLine s) (ht : beginMark <+: t) (hr : r.Reads s) (hq : q.Reads t)
    (hpool : (ofPem t path).1 = .ok pool) :
    ∃ p ps, q.pieces = p :: ps ∧ pool.roots = p.root?.toList ++ ps.filterMap Piece.root? ∧
      (let found := r.roots ++ ((p.behind r.cutOff).root?.toList ++ ps.filterMap Piece.root?);
        (ofPem (s ++ t) path).1.map (·.roots) =
          if found = [] then .error (.missingOrInvalidRoot path none) else .ok found) ∧
      ((∀ b ∈ Stretch.textOf r.cutOff, Base64.isBlank b = true) →
        ∃ pool', (ofPem (s ++ t) path).1 = .ok pool' ∧ pool'.roots = r.roots ++ pool.roots) := by
  have hroots : pool.roots = q.roots := by
    have h := (ofPem_of_reads hq path).1
    rw [hpool] at h
    split at h
    · nomatch h
    · exact Except.ok.inj h
  cases hpieces : q.pieces with
  | nil =>
      rw [Reading.roots, hpieces] at hroots
      exact absurd hroots pool.roots_ne_nil
  | cons p ps =>
      have hown : pool.roots = p.root?.toList ++ ps.filterMap Piece.root? := by
        rw [hroots, Reading.roots, hpieces, List.filterMap_cons]
        cases p.root? with
        | none => rfl
        | some a => rfl
      obtain ⟨u, hu, hfound⟩ := exists_reads_behind hs ht hr hq hpieces
      have hjoined := (ofPem_of_reads hu path).1
      rw [hfound] at hjoined
      refine ⟨p, ps, rfl, hown, hjoined, ?_⟩
      intro hblank
      rw [root?_behind_blank hblank, ← hown] at hjoined
      have hne : r.roots ++ pool.roots ≠ [] :=
        List.append_ne_nil_of_right_ne_nil _ pool.roots_ne_nil
      rw [if_neg hne] at hjoined
      cases hresult : (ofPem (s ++ t) path).1 with
      | error e =>
          rw [hresult] at hjoined
          nomatch hjoined
      | ok pool' =>
          rw [hresult] at hjoined
          exact ⟨pool', rfl, Except.ok.inj hjoined⟩

/-! ### A certificate behind a torn block -/

/-- A block that is cut off behind its BEGIN line. -/
def bareBegin : Bytes :=
  ascii "-----BEGIN CERTIFICATE-----\n"

def bareReading : Reading where
  pieces := []
  cutOff := [⟨ascii "-----BEGIN CERTIFICATE-----", ascii "CERTIFICATE", [[]], by decide, by decide⟩]

theorem certificate_begins : beginMark <+: Provisioning.firstVersion.cert := by
  decide +kernel

theorem certificate_pool :
    (ofPem Provisioning.firstVersion.cert "root.crt").1.map (·.roots.length) = .ok 1 := by
  decide +kernel

/-- Nothing is pending behind the BEGIN line, and the root is kept. -/
theorem roots_behind_bare_begin :
    EndsLine bareBegin ∧ beginMark <+: Provisioning.firstVersion.cert ∧
    bareReading.Reads bareBegin ∧ certificateReading.Reads Provisioning.firstVersion.cert ∧
    (∀ b ∈ Stretch.textOf bareReading.cutOff, Base64.isBlank b = true) ∧
    ∃ pool pool', (ofPem Provisioning.firstVersion.cert "root.crt").1 = .ok pool ∧
      (ofPem (bareBegin ++ Provisioning.firstVersion.cert) "root.crt").1 = .ok pool' ∧
      pool'.roots = pool.roots := by
  have hends : EndsLine bareBegin := by decide +kernel
  have hreads : bareReading.Reads bareBegin := by decide +kernel
  have hblank : ∀ b ∈ Stretch.textOf bareReading.cutOff, Base64.isBlank b = true :=
    fun _ hb => nomatch hb
  refine ⟨hends, certificate_begins, hreads, certificateReading_reads, hblank, ?_⟩
  cases hpool : (ofPem Provisioning.firstVersion.cert "root.crt").1 with
  | error e =>
      have hcount := certificate_pool
      rw [hpool] at hcount
      nomatch hcount
  | ok pool =>
      obtain ⟨p, ps, -, -, -, hkept⟩ :=
        roots_behind_damage hends certificate_begins hreads certificateReading_reads hpool
      obtain ⟨pool', hpool', hroots⟩ := hkept hblank
      exact ⟨pool, pool', rfl, hpool', hroots⟩

/-- A block that is cut off in its text. -/
def tornBlock : Bytes :=
  ascii "-----BEGIN CERTIFICATE-----\nAAAA\n"

/-- The certificate behind the torn block is read together with the text of the block.  So the only
root of the bundle is lost, and there is no pool. -/
theorem torn_block_hides_root :
    EndsLine tornBlock ∧ beginMark <+: Provisioning.firstVersion.cert ∧
    (ofPem Provisioning.firstVersion.cert "root.crt").1.map (·.roots.length) = .ok 1 ∧
    (ofPem (tornBlock ++ Provisioning.firstVersion.cert) "root.crt").1.map (·.roots.length) =
      .error (.missingOrInvalidRoot "root.crt" none) := by
  refine ⟨?_, certificate_begins, certificate_pool, ?_⟩
  · decide +kernel
  · decide +kernel

end TrustPool
end CertRotation
