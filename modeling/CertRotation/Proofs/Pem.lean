/-
# `Proofs.Pem` — a scan gives what the pieces of a text hold

A bundle is scanned line by line, with a state that says whether a block is open and what it holds so
far.  The pieces of a text say the same without a state:

    every text has a reading                                    (`exists_reading`)
    a scan gives the items of the pieces, one after the other    (`items_of_reads`)

All else is read off the pieces: the certificates and damages of a text (`certificates_of_reads`) and
its first private key, which is looked for no further than the first damage (`firstKey_of_reads`).

A scan keeps the text of an open block when another BEGIN line comes.  So what a block holds depends
on what was pending before it (`scan_block`), and what follows the block does not.
-/
import Mathlib.Data.List.Basic
import CertRotation.Pem.Piece

namespace CertRotation.Pem

/-! ## Lines -/

/-- Behind a text whose last line is ended, a new line begins. -/
theorem exists_lines_append {s : Bytes} (h : EndsLine s) :
    ∃ ls, lines s = ls ++ [[]] ∧ (∀ t, lines (s ++ t) = ls ++ lines t) ∧ (s ≠ [] → ls ≠ []) := by
  induction s with
  | nil => exact ⟨[], rfl, fun t => rfl, fun hne => absurd rfl hne⟩
  | cons b r ih =>
      have hr : EndsLine r := by
        intro c hc
        refine h c ?_
        cases r with
        | nil => nomatch hc
        | cons _ _ => exact hc
      obtain ⟨ls, hlines, happend, hne⟩ := ih hr
      by_cases hb : isEol b = true
      · refine ⟨[] :: ls, ?_, ?_, fun _ => List.cons_ne_nil _ _⟩
        · rw [lines, if_pos hb, hlines]
          rfl
        · intro t
          rw [List.cons_append, lines, if_pos hb, happend t]
          rfl
      · have hcons : r ≠ [] := by
          rintro rfl
          exact hb (h b rfl)
        obtain ⟨l, ls, rfl⟩ := List.exists_cons_of_ne_nil (hne hcons)
        refine ⟨(b :: l) :: ls, ?_, ?_, fun _ => List.cons_ne_nil _ _⟩
        · rw [lines, if_neg hb, hlines]
          rfl
        · intro t
          rw [List.cons_append, lines, if_neg hb, happend t]
          rfl

/-- A text without line ends begins the first line of what it stands before. -/
theorem exists_lines_of_inline {m : Bytes} (h : m.any isEol = false) (t : Bytes) :
    ∃ l ls, lines (m ++ t) = (m ++ l) :: ls := by
  induction m with
  | nil =>
      cases hlines : lines t with
      | nil =>
          cases t with
          | nil => nomatch hlines
          | cons b t =>
              rw [lines] at hlines
              split at hlines
              · nomatch hlines
              · split at hlines <;> nomatch hlines
      | cons l ls => exact ⟨l, ls, hlines⟩
  | cons b m ih =>
      rw [List.any_cons, Bool.or_eq_false_iff] at h
      obtain ⟨l, ls, hlines⟩ := ih h.2
      refine ⟨l, ls, ?_⟩
      have hb : ¬ isEol b = true := by
        rw [h.1]
        exact Bool.false_ne_true
      rw [List.cons_append, lines, if_neg hb, hlines]
      rfl

/-- A line that begins as END lines do is no BEGIN line. -/
theorem isBegin_of_isEnd {label line : Bytes} (h : isEnd label line = true) :
    isBegin line = false := by
  have hend : endMark ++ label ++ dashes <+: line := by
    unfold isEnd after? at h
    split at h
    · exact List.isPrefixOf_iff_prefix.mp ‹_›
    · nomatch h
  have hmark : endMark <+: line :=
    ((List.prefix_append endMark label).trans (List.prefix_append _ dashes)).trans hend
  have hno : ¬ beginMark.isPrefixOf line = true := by
    intro hbegin
    have hboth : endMark <+: beginMark :=
      List.prefix_of_prefix_length_le hmark (List.isPrefixOf_iff_prefix.mp hbegin) (by decide)
    exact absurd hboth (by decide)
  unfold isBegin after?
  rw [if_neg hno]
  rfl

/-! ## Plain lines -/

theorem after?_append (start line : Bytes) : after? start (start ++ line) = some line := by
  have hstart : start.isPrefixOf (start ++ line) = true :=
    List.isPrefixOf_iff_prefix.mpr (List.prefix_append start line)
  rw [after?, if_pos hstart, List.drop_left]

/-- The plain BEGIN line of a label that ends in neither a hyphen nor a space. -/
theorem label?_plain {label : Bytes}
    (h : label.getLast? ≠ some 0x2D ∧ label.getLast? ≠ some 0x20) :
    label? (beginMark ++ (label ++ dashes)) = some label := by
  have hstop : trailer 5 label.reverse label.reverse = (5, label.reverse) := by
    rw [← List.head?_reverse] at h
    cases hrev : label.reverse with
    | nil => rfl
    | cons b r =>
        rw [hrev] at h
        unfold trailer
        split
        · rename_i heq
          exact absurd (congrArg List.head? heq) h.1
        · rename_i heq
          exact absurd (congrArg List.head? heq) h.2
        · rfl
  have htrailer : trailer 0 (label ++ dashes).reverse (label ++ dashes).reverse =
      (5, label.reverse) := by
    rw [List.reverse_append]
    exact hstop
  rw [label?, after?_append, Option.bind_some, beginLabel?, htrailer]
  simp

theorem isEnd_plain (label : Bytes) : isEnd label (endMark ++ label ++ dashes) = true := by
  have h := after?_append (endMark ++ label ++ dashes) []
  rw [List.append_nil] at h
  rw [isEnd, h]
  rfl

/-- The block of a label and some lines, with plain BEGIN and END lines. -/
def Piece.plain (label : Bytes) (body : List Bytes)
    (hlabel : label.getLast? ≠ some 0x2D ∧ label.getLast? ≠ some 0x20)
    (hbody : ∀ line ∈ body, isBegin line = false ∧ isEnd label line = false) : Piece :=
  .block [] ⟨beginMark ++ (label ++ dashes), label, body, label?_plain hlabel, hbody⟩
    (endMark ++ label ++ dashes) (isEnd_plain label)

/-! ## One line of a scan -/

/-- What an open block holds so far. -/
def pending (state : Option Open) : Bytes :=
  (state.map (·.2)).getD []

section
variable {state : Option Open} {label body line : Bytes} {rest : List Bytes}

theorem after?_of_isBegin (h : isBegin line = false) : after? beginMark line = none := by
  unfold isBegin at h
  exact Option.not_isSome_iff_eq_none.mp (by rw [h]; exact Bool.false_ne_true)

/-- A BEGIN line opens a block, or changes the label of the one that is open. -/
theorem scan_opening (h : label? line = some label) :
    scan state (line :: rest) = scan (some (label, pending state)) rest := by
  obtain ⟨r, hafter, hlabel⟩ := Option.bind_eq_some_iff.mp h
  cases state with
  | none =>
      rw [scan, hafter]
      simp only [hlabel]
      rfl
  | some o =>
      rw [scan, hafter]
      simp only [hlabel]
      rfl

/-- An ill-formed BEGIN line is a damage, and no block is open after it. -/
theorem scan_illFormed (hbegin : isBegin line = true) (h : label? line = none) :
    scan state (line :: rest) = .damaged .illegalBegin :: scan none rest := by
  obtain ⟨r, hafter⟩ := Option.isSome_iff_exists.mp hbegin
  have hlabel : beginLabel? r = none := by
    rw [label?, hafter] at h
    exact h
  cases state with
  | none =>
      rw [scan, hafter]
      simp only [hlabel]
  | some o =>
      rw [scan, hafter]
      simp only [hlabel]

theorem scan_outside (h : isBegin line = false) : scan none (line :: rest) = scan none rest := by
  rw [scan, after?_of_isBegin h]

theorem scan_body (hbegin : isBegin line = false) (h : isEnd label line = false) :
    scan (some (label, body)) (line :: rest) = scan (some (label, body ++ line)) rest := by
  rw [scan, after?_of_isBegin hbegin]
  simp only [h, Bool.false_eq_true, if_false]

/-- The END line of its label closes a block. -/
theorem scan_closing (h : isEnd label line = true) :
    scan (some (label, body)) (line :: rest) = (close label body).toList ++ scan none rest := by
  rw [scan, after?_of_isBegin (isBegin_of_isEnd h)]
  simp only [h, if_true]

end

/-! ## Stretches -/

/-- The state of a scan behind some stretches. -/
def behind (state : Option Open) (ts : List Stretch) : Option Open :=
  ts.foldl (fun st t => some (t.label, pending st ++ t.text)) state

theorem behind_concat (state : Option Open) (ts : List Stretch) (t : Stretch) :
    behind state (ts ++ [t]) = some (t.label, pending (behind state ts) ++ t.text) := by
  unfold behind
  rw [List.foldl_append]
  rfl

theorem pending_behind (state : Option Open) (ts : List Stretch) :
    pending (behind state ts) = pending state ++ Stretch.textOf ts := by
  induction ts generalizing state with
  | nil => exact (List.append_nil _).symm
  | cons t ts ih =>
      have hstep : behind state (t :: ts) = behind (some (t.label, pending state ++ t.text)) ts := rfl
      rw [hstep, ih]
      exact List.append_assoc _ _ _

/-- A line that is neither a BEGIN line nor an END line belongs to the body. -/
theorem scan_inside {label : Bytes} {ls : List Bytes}
    (h : ∀ line ∈ ls, isBegin line = false ∧ isEnd label line = false) (body : Bytes)
    (rest : List Bytes) :
    scan (some (label, body)) (ls ++ rest) = scan (some (label, body ++ ls.flatten)) rest := by
  induction ls generalizing body with
  | nil => rw [List.flatten_nil, List.append_nil, List.nil_append]
  | cons line ls ih =>
      obtain ⟨hbegin, hend⟩ := h line List.mem_cons_self
      rw [List.cons_append, scan_body hbegin hend,
        ih (fun l hl => h l (List.mem_cons_of_mem line hl)), List.flatten_cons, List.append_assoc]

theorem scan_stretches (state : Option Open) (ts : List Stretch) (rest : List Bytes) :
    scan state (ts.flatMap Stretch.lines ++ rest) = scan (behind state ts) rest := by
  induction ts generalizing state with
  | nil => rfl
  | cons t ts ih =>
      have hlines : (t :: ts).flatMap Stretch.lines ++ rest =
          t.opening :: (t.body ++ (ts.flatMap Stretch.lines ++ rest)) := by
        rw [List.flatMap_cons, List.append_assoc]
        rfl
      rw [hlines, scan_opening t.opens, scan_inside t.inside, ih]
      rfl

/-! ## Pieces -/

/-- The item of a piece. -/
def Piece.item? (p : Piece) : Option Item :=
  (p.decoded?.map fun (l, der) => Item.block l der).or (p.fault?.map Item.damaged)

/-- A block, whatever is pending before it. -/
theorem scan_block (state : Option Open) (before : List Stretch) (last : Stretch) (closing : Bytes)
    (closes : isEnd last.label closing = true) (rest : List Bytes) :
    scan state ((Piece.block before last closing closes).lines ++ rest) =
      (close last.label (pending state ++ Stretch.textOf before ++ last.text)).toList
        ++ scan none rest := by
  have hlines : (Piece.block before last closing closes).lines ++ rest =
      (before ++ [last]).flatMap Stretch.lines ++ (closing :: rest) := by
    simp only [Piece.lines, List.flatMap_append, List.flatMap_cons, List.flatMap_nil,
      List.append_nil, List.append_assoc, List.singleton_append]
  rw [hlines, scan_stretches, behind_concat, scan_closing closes, pending_behind]

/-- An ill-formed BEGIN line, whatever is pending before it. -/
theorem scan_broken (state : Option Open) (before : List Stretch) (line : Bytes)
    (begins : isBegin line = true) (illFormed : label? line = none) (rest : List Bytes) :
    scan state ((Piece.broken before line begins illFormed).lines ++ rest) =
      .damaged .illegalBegin :: scan none rest := by
  rw [Piece.lines, List.append_assoc, scan_stretches]
  exact scan_illFormed begins illFormed

/-- What a closed block amounts to: nothing where the label is unknown. -/
theorem close_eq (before : List Stretch) (last : Stretch) (closing : Bytes)
    (closes : isEnd last.label closing = true) :
    close last.label (Stretch.textOf before ++ last.text) =
      (Piece.block before last closing closes).item? := by
  simp only [close, Piece.item?, Piece.decoded?, Piece.block?, Piece.fault?, Option.bind_some]
  cases Label.ofText? last.label with
  | none => rfl
  | some l =>
      cases Base64.decode? (Stretch.textOf before ++ last.text) with
      | none => rfl
      | some der => rfl

theorem scan_piece (p : Piece) (rest : List Bytes) :
    scan none (p.lines ++ rest) = p.item?.toList ++ scan none rest := by
  cases p with
  | other line outside => exact scan_outside outside
  | block before last closing closes =>
      rw [scan_block, ← close_eq]
      rfl
  | broken before line begins illFormed => rw [scan_broken]; rfl

theorem scan_pieces (ps : List Piece) (rest : List Bytes) :
    scan none (ps.flatMap Piece.lines ++ rest) = ps.filterMap Piece.item? ++ scan none rest := by
  induction ps with
  | nil => rfl
  | cons p ps ih =>
      rw [List.flatMap_cons, List.append_assoc, scan_piece, ih, List.filterMap_cons]
      cases p.item? with
      | none => rfl
      | some i => rfl

/-! ## Readings -/

/-- A scan gives the items of the pieces, and a damage where the text ends in a block. -/
theorem items_of_reads {r : Reading} {s : Bytes} (h : r.Reads s) :
    items s = r.pieces.filterMap Piece.item? ++ (r.endFault?.map Item.damaged).toList := by
  rw [items, show lines s = r.lines from h, Reading.lines, scan_pieces]
  congr 1
  have hrest := scan_stretches none r.cutOff []
  rw [List.append_nil] at hrest
  rw [hrest, Reading.endFault?]
  cases hcut : r.cutOff.reverse with
  | nil =>
      rw [List.reverse_eq_nil_iff.mp hcut]
      rfl
  | cons t ts =>
      rw [List.reverse_eq_cons_iff.mp hcut, behind_concat]
      simp [scan]

/-- Every row of lines has a reading, also inside of a block. -/
theorem exists_lines_eq (ts : List Stretch) (ls : List Bytes) :
    ∃ r : Reading, r.lines = ts.flatMap Stretch.lines ++ ls := by
  -- The next line closes the open block, breaks it off, or becomes a part of it.
  induction ls generalizing ts with
  | nil => exact ⟨⟨[], ts⟩, (List.append_nil _).symm⟩
  | cons line ls ih =>
      have closed (p : Piece) (hp : p.lines = ts.flatMap Stretch.lines ++ [line]) :
          ∃ r : Reading, r.lines = ts.flatMap Stretch.lines ++ line :: ls := by
        obtain ⟨r, hr⟩ := ih []
        refine ⟨⟨p :: r.pieces, r.cutOff⟩, ?_⟩
        have hcons : (⟨p :: r.pieces, r.cutOff⟩ : Reading).lines = p.lines ++ r.lines := by
          rw [Reading.lines, Reading.lines, List.flatMap_cons, List.append_assoc]
        rw [hcons, hr, hp]
        exact List.append_assoc _ _ _
      by_cases hbegin : isBegin line = true
      · cases hlabel : label? line with
        | none => exact closed (.broken ts line hbegin hlabel) rfl
        | some label =>
            obtain ⟨r, hr⟩ := ih (ts ++ [⟨line, label, [], hlabel, fun l hl => nomatch hl⟩])
            refine ⟨r, ?_⟩
            rw [hr, List.flatMap_append, List.append_assoc]
            rfl
      · have hno : isBegin line = false := Bool.eq_false_iff.mpr hbegin
        rcases List.eq_nil_or_concat' ts with rfl | ⟨before, t, rfl⟩
        · exact closed (.other line hno) rfl
        · by_cases hend : isEnd t.label line = true
          · refine closed (.block before t line hend) ?_
            rw [Piece.lines, List.flatMap_append, List.append_assoc]
            simp only [List.flatMap_cons, List.flatMap_nil, List.append_nil]
          · have hinside : ∀ l ∈ t.body ++ [line], isBegin l = false ∧ isEnd t.label l = false := by
              intro l hl
              rcases List.mem_append.mp hl with hl | hl
              · exact t.inside l hl
              · rw [List.mem_singleton.mp hl]
                exact ⟨hno, Bool.eq_false_iff.mpr hend⟩
            obtain ⟨r, hr⟩ := ih (before ++ [{ t with body := t.body ++ [line], inside := hinside }])
            refine ⟨r, ?_⟩
            rw [hr]
            simp only [List.flatMap_append, List.flatMap_cons,
              List.flatMap_nil, Stretch.lines, List.append_nil, List.append_assoc, List.cons_append,
              List.nil_append]

/-- Every text has a reading. -/
theorem exists_reading (s : Bytes) : ∃ r : Reading, r.Reads s := by
  obtain ⟨r, hr⟩ := exists_lines_eq [] (lines s)
  exact ⟨r, hr.symm⟩

/-! ## One text behind another -/

/-- A reading of a text as it stands before another one: the end of its last line opens no line of its
own any more. -/
structure Reading.StandsBefore (r₀ r : Reading) : Prop where
  pieces : r.pieces = r₀.pieces ∨ ∃ outside, r.pieces = r₀.pieces ++ [.other [] outside]
  text : Stretch.textOf r₀.cutOff = Stretch.textOf r.cutOff
  ended : r.cutOff = [] → r₀.cutOff = []

/-- An empty line stands outside of blocks, or in the body of one. -/
theorem exists_standsBefore_of_lines {r : Reading} {ls : List Bytes} (h : r.lines = ls ++ [[]]) :
    ∃ r₀ : Reading, r₀.StandsBefore r ∧ r₀.lines = ls := by
  -- BEGIN and END lines are not empty, so only two places are left for the last line.
  obtain ⟨pieces, cutOff⟩ := r
  rw [Reading.lines] at h
  rcases List.eq_nil_or_concat' cutOff with rfl | ⟨ts, t, rfl⟩
  · rw [List.flatMap_nil, List.append_nil] at h
    rcases List.eq_nil_or_concat' pieces with rfl | ⟨ps, p, rfl⟩
    · exact absurd h.symm (List.append_ne_nil_of_right_ne_nil ls (List.cons_ne_nil _ _))
    · rw [List.flatMap_append, List.flatMap_singleton] at h
      cases p with
      | other line outside =>
          obtain ⟨hls, hline⟩ := List.append_inj' h rfl
          obtain rfl : line = [] := List.head_eq_of_cons_eq hline
          refine ⟨⟨ps, []⟩, ⟨Or.inr ⟨outside, rfl⟩, rfl, fun _ => rfl⟩, ?_⟩
          rw [← hls, Reading.lines]
          exact List.append_nil _
      | block before last closing closes =>
          rw [Piece.lines, ← List.append_assoc, ← List.append_assoc] at h
          obtain rfl : closing = [] := List.head_eq_of_cons_eq (List.append_inj' h rfl).2
          nomatch closes
      | broken before line begins illFormed =>
          rw [Piece.lines, ← List.append_assoc] at h
          obtain rfl : line = [] := List.head_eq_of_cons_eq (List.append_inj' h rfl).2
          nomatch begins
  · rw [List.flatMap_append, List.flatMap_singleton] at h
    obtain ⟨opening, label, body, opens, inside⟩ := t
    rcases List.eq_nil_or_concat' body with rfl | ⟨body, line, rfl⟩
    · rw [Stretch.lines, ← List.append_assoc] at h
      obtain rfl : opening = [] := List.head_eq_of_cons_eq (List.append_inj' h rfl).2
      nomatch opens
    · rw [Stretch.lines, ← List.cons_append, ← List.append_assoc, ← List.append_assoc] at h
      obtain ⟨hls, hline⟩ := List.append_inj' h rfl
      obtain rfl : line = [] := List.head_eq_of_cons_eq hline
      let t₀ : Stretch := ⟨opening, label, body, opens, fun l hl => inside l (List.mem_append_left _ hl)⟩
      refine ⟨⟨pieces, ts ++ [t₀]⟩, ⟨Or.inl rfl, ?_, ?_⟩, ?_⟩
      · simp [Stretch.textOf, Stretch.text, t₀]
      · intro hnil
        exact absurd hnil (List.append_ne_nil_of_right_ne_nil ts (List.cons_ne_nil _ _))
      · rw [← hls, Reading.lines, List.flatMap_append, List.flatMap_singleton]
        exact (List.append_assoc _ _ _).symm

/-- What is read behind a text whose last line is ended is read as if it stood alone. -/
theorem exists_standsBefore {r : Reading} {s : Bytes} (hr : r.Reads s) (hs : EndsLine s) :
    ∃ r₀ : Reading, r₀.StandsBefore r ∧ ∀ t, lines (s ++ t) = r₀.lines ++ lines t := by
  obtain ⟨ls, hlines, happend, -⟩ := exists_lines_append hs
  obtain ⟨r₀, hr₀, hls⟩ := exists_standsBefore_of_lines (hr.symm.trans hlines)
  refine ⟨r₀, hr₀, ?_⟩
  intro t
  rw [happend t, hls]

/-! ## Certificates -/

/-- What a piece can hold: nothing of account, a decoded block, or a damage. -/
inductive Piece.Outcome (p : Piece) : Prop where
  | nothing (decoded : p.decoded? = none) (fault : p.fault? = none)
  | block (l : Label) (der : Bytes) (decoded : p.decoded? = some (l, der)) (fault : p.fault? = none)
  | damaged (f : Fault) (decoded : p.decoded? = none) (fault : p.fault? = some f)

theorem Piece.outcome (p : Piece) : p.Outcome := by
  cases p with
  | other line outside => exact .nothing rfl rfl
  | broken before line begins illFormed => exact .damaged .illegalBegin rfl rfl
  | block before last closing closes =>
      cases hlabel : Label.ofText? last.label with
      | none => exact .nothing (by simp [decoded?, block?, hlabel]) (by simp [fault?, hlabel])
      | some l =>
          cases hder : Base64.decode? (Stretch.textOf before ++ last.text) with
          | none =>
              exact .damaged .badBase64 (by simp [decoded?, block?, hder])
                (by simp [fault?, hlabel, hder])
          | some der =>
              exact .block l der (by simp [decoded?, block?, hlabel, hder])
                (by simp [fault?, hder])

/-- What a piece counts for where certificates are collected. -/
def Piece.mark? (p : Piece) : Option (Except Fault Bytes) :=
  (p.certificate?.map Except.ok).or (p.fault?.map Except.error)

theorem certificates_of_reads {r : Reading} {s : Bytes} (h : r.Reads s) :
    certificates s = r.pieces.filterMap Piece.mark? ++ (r.endFault?.map Except.error).toList := by
  rw [certificates, items_of_reads h, List.filterMap_append, List.filterMap_filterMap]
  congr 1
  · congr 1
    funext p
    cases p.outcome with
    | nothing decoded fault => simp [Piece.item?, Piece.mark?, Piece.certificate?, decoded, fault]
    | block l der decoded fault =>
        cases l <;> simp [Piece.item?, Piece.mark?, Piece.certificate?, decoded, fault]
    | damaged f decoded fault =>
        simp [Piece.item?, Piece.mark?, Piece.certificate?, decoded, fault]
  · cases r.endFault? with
    | none => rfl
    | some f => rfl

/-- A piece that holds a decoded block has nothing wrong with it. -/
theorem Piece.fault?_of_decoded {p : Piece} {x : Label × Bytes} (h : p.decoded? = some x) :
    p.fault? = none := by
  cases p.outcome with
  | nothing decoded fault => exact fault
  | block l der decoded fault => exact fault
  | damaged f decoded fault => rw [decoded] at h; nomatch h

theorem Piece.fault?_of_certificate {p : Piece} {der : Bytes} (h : p.certificate? = some der) :
    p.fault? = none := by
  obtain ⟨x, hx, -⟩ := Option.bind_eq_some_iff.mp h
  exact p.fault?_of_decoded hx

theorem Piece.fault?_of_key {p : Piece} {k : Container × Bytes} (h : p.key? = some k) :
    p.fault? = none := by
  obtain ⟨x, hx, -⟩ := Option.bind_eq_some_iff.mp h
  exact p.fault?_of_decoded hx

theorem collect_ok (der : Bytes) (xs : List (Except Fault Bytes)) :
    (.ok der :: xs).mapM id = (xs.mapM id).map (der :: ·) := by
  rw [List.mapM_cons]
  cases xs.mapM id with
  | error f => rfl
  | ok ds => rfl

theorem collect_error (f : Fault) (xs : List (Except Fault Bytes)) :
    (.error f :: xs).mapM id = .error f := by
  rw [List.mapM_cons]
  rfl

/-- Collecting certificates stops at the first damage. -/
theorem collect_marks (ps : List Piece) (xs : List (Except Fault Bytes)) :
    (ps.filterMap Piece.mark? ++ xs).mapM id =
      match ps.findSome? Piece.fault? with
      | some f => .error f
      | none => (xs.mapM id).map (ps.filterMap Piece.certificate? ++ ·) := by
  induction ps with
  | nil =>
      show xs.mapM id = (xs.mapM id).map ([] ++ ·)
      cases xs.mapM id with
      | error f => rfl
      | ok ds => rfl
  | cons p ps ih =>
      cases hcert : p.certificate? with
      | some der =>
          have hfault : p.fault? = none := Piece.fault?_of_certificate hcert
          have hmark : p.mark? = some (.ok der) := by rw [Piece.mark?, hcert]; rfl
          rw [List.filterMap_cons_some hmark, List.filterMap_cons_some hcert, List.cons_append,
            collect_ok, ih, List.findSome?_cons, hfault]
          cases ps.findSome? Piece.fault? with
          | some f => rfl
          | none =>
              cases xs.mapM id with
              | error f => rfl
              | ok ds => rfl
      | none =>
          cases hfault : p.fault? with
          | some f =>
              have hmark : p.mark? = some (.error f) := by rw [Piece.mark?, hcert, hfault]; rfl
              rw [List.filterMap_cons_some hmark, List.cons_append, collect_error,
                List.findSome?_cons, hfault]
          | none =>
              have hmark : p.mark? = none := by rw [Piece.mark?, hcert, hfault]; rfl
              rw [List.filterMap_cons_none hmark, List.filterMap_cons_none hcert, ih,
                List.findSome?_cons, hfault]

/-- The certificates of a text come all together, or not at all where anything is wrong with it. -/
theorem collect_of_reads {r : Reading} {s : Bytes} (h : r.Reads s) :
    (certificates s).mapM id =
      match r.fault? with
      | some f => .error f
      | none => .ok r.certificates := by
  rw [certificates_of_reads h, collect_marks, Reading.fault?]
  cases r.pieces.findSome? Piece.fault? with
  | some f => rfl
  | none =>
      cases r.endFault? with
      | some f => rfl
      | none =>
          show Except.ok (r.certificates ++ []) = Except.ok r.certificates
          rw [List.append_nil]

/-! ## The first private key -/

theorem Piece.key?_of_decoded {p : Piece} {l : Label} {der : Bytes}
    (h : p.decoded? = some (l, der)) :
    p.key? = (Container.ofLabel? l).map fun c => (c, der) := by
  rw [Piece.key?, h]
  rfl

/-- The first private key of a row of pieces; it is looked for up to the first damage. -/
theorem firstKey_pieces (ps : List Piece) (rest : List Item) :
    firstKey (ps.filterMap Piece.item? ++ rest) =
      match (ps.takeWhile fun p => p.key?.isNone).findSome? Piece.fault?, ps.findSome? Piece.key? with
      | some f, _ => .error f
      | none, some k => .ok (some k)
      | none, none => firstKey rest := by
  induction ps with
  | nil => rfl
  | cons p ps ih =>
      cases p.outcome with
      | nothing decoded fault =>
          have hitem : p.item? = none := by rw [Piece.item?, decoded, fault]; rfl
          have hkey : p.key? = none := by rw [Piece.key?, decoded]; rfl
          rw [List.filterMap_cons_none hitem, ih, List.takeWhile_cons_of_pos (by rw [hkey]; rfl),
            List.findSome?_cons, List.findSome?_cons, fault, hkey]
      | block l der decoded fault =>
          have hitem : p.item? = some (.block l der) := by rw [Piece.item?, decoded]; rfl
          cases hcontainer : Container.ofLabel? l with
          | none =>
              have hkey : p.key? = none := by rw [Piece.key?_of_decoded decoded, hcontainer]; rfl
              rw [List.filterMap_cons_some hitem, List.cons_append, firstKey, hcontainer]
              rw [List.takeWhile_cons_of_pos (by rw [hkey]; rfl), List.findSome?_cons,
                List.findSome?_cons, fault, hkey]
              exact ih
          | some c =>
              have hkey : p.key? = some (c, der) := by
                rw [Piece.key?_of_decoded decoded, hcontainer]
                rfl
              rw [List.filterMap_cons_some hitem, List.cons_append, firstKey, hcontainer]
              rw [List.takeWhile_cons_of_neg (by rw [hkey]; exact Bool.false_ne_true),
                List.findSome?_cons, hkey]
              rfl
      | damaged f decoded fault =>
          have hitem : p.item? = some (.damaged f) := by rw [Piece.item?, decoded, fault]; rfl
          have hkey : p.key? = none := by rw [Piece.key?, decoded]; rfl
          rw [List.filterMap_cons_some hitem, List.cons_append, firstKey,
            List.takeWhile_cons_of_pos (by rw [hkey]; rfl), List.findSome?_cons, fault]

theorem firstKey_of_reads {r : Reading} {s : Bytes} (h : r.Reads s) :
    firstKey (items s) =
      match r.aheadOfKey.fault? with
      | some f => .error f
      | none => .ok r.key? := by
  rw [items_of_reads h, firstKey_pieces, Reading.fault?, Reading.endFault?, Reading.aheadOfKey,
    Reading.key?]
  cases (r.pieces.takeWhile fun p => p.key?.isNone).findSome? Piece.fault? with
  | some f => rfl
  | none =>
      cases r.pieces.findSome? Piece.key? with
      | some k => rfl
      | none =>
          rw [Reading.endFault?]
          cases hcut : r.cutOff.isEmpty with
          | true => simp [hcut, firstKey]
          | false => simp [hcut, firstKey]

end CertRotation.Pem
