/-
# `Proofs.Metrics.Reading` — what is written reads back

The format is read strictly, and what is written in it reads back as it was, whatever characters the
label values hold.  From the inside out:

    an escaped value and a quote            ⟶  the value              (`readValue?_escape`)
    a label                                 ⟶  its name and value     (`readLabel?_write`)
    labels in braces, or none               ⟶  the labels             (`readBraces?_write`)
    the line of a sample                    ⟶  the sample             (`readSample?_line`)
    families                                ⟶  all samples of them    (`readBody?_families`)

Each reader returns what it leaves, so each law has the rest of the text after what was written.  The
last one needs that no line holds a line break, which escaping sees to (`not_mem_escape`).
-/
import CertRotation.Metrics.Reading

namespace CertRotation.Metrics

open Text

/-! ## Names and single characters -/

/-- A name of the format. -/
def isName (start rest : Char → Bool) : List Char → Bool
  | [] => false
  | c :: r => start c && r.all rest

section
variable {c d : Char} {start rest : Char → Bool} {name : List Char}

theorem skip_cons (h : isGap c = false) (r : List Char) : skip (c :: r) = c :: r := by
  rw [skip, List.dropWhile_cons, h]
  rfl

theorem after?_self (h : isGap d = false) (r : List Char) : after? d (d :: r) = some r := by
  simp only [after?, skip_cons h, if_true]

theorem after?_ne (h : isGap c = false) (hne : c ≠ d) (r : List Char) : after? d (c :: r) = none := by
  simp only [after?, skip_cons h, if_neg hne]

theorem isGap_iff : isGap c = true ↔ c = ' ' ∨ c = '\t' := by
  simp only [isGap, Bool.or_eq_true, beq_iff_eq]

/-- Where gaps begin no name, a name does not begin with one. -/
theorem not_gap_of_start (hblank : start ' ' = false) (htab : start '\t' = false)
    (hc : start c = true) : isGap c = false := by
  cases h : isGap c with
  | false => rfl
  | true =>
      rcases isGap_iff.mp h with rfl | rfl
      · rw [hblank] at hc
        nomatch hc
      · rw [htab] at hc
        nomatch hc

/-- A name is read up to the first character that does not belong to it. -/
theorem readName?_append (hblank : start ' ' = false) (htab : start '\t' = false)
    (hname : isName start rest name = true) (hd : rest d = false) (r : List Char) :
    readName? start rest (name ++ d :: r) = some (name, d :: r) := by
  cases name with
  | nil => nomatch hname
  | cons c name =>
      obtain ⟨hc, hall⟩ := Bool.and_eq_true_iff.mp hname
      have hrest : ∀ x ∈ name, rest x = true := List.all_eq_true.mp hall
      rw [readName?, List.cons_append, skip_cons (not_gap_of_start hblank htab hc)]
      simp only [hc, if_true, List.takeWhile_append_of_pos hrest, List.dropWhile_append_of_pos hrest,
        List.takeWhile_cons, List.dropWhile_cons, hd, Bool.false_eq_true, if_false, List.append_nil]

theorem not_mem_of_isName (hname : isName start rest name = true) (hstart : start d = false)
    (hrest : rest d = false) : d ∉ name := by
  cases name with
  | nil => exact List.not_mem_nil
  | cons c name =>
      obtain ⟨hc, hall⟩ := Bool.and_eq_true_iff.mp hname
      intro hmem
      rcases List.mem_cons.mp hmem with rfl | hmem
      · rw [hc] at hstart
        nomatch hstart
      · rw [List.all_eq_true.mp hall d hmem] at hrest
        nomatch hrest

/-- What does not begin a name is not found where a name stands. -/
theorem after?_name (hblank : start ' ' = false) (htab : start '\t' = false)
    (hname : isName start rest name = true) (hd : start d = false) (r : List Char) :
    after? d (name ++ r) = none := by
  cases name with
  | nil => nomatch hname
  | cons c name =>
      obtain ⟨hc, -⟩ := Bool.and_eq_true_iff.mp hname
      refine after?_ne (not_gap_of_start hblank htab hc) ?_ _
      rintro rfl
      rw [hc] at hd
      nomatch hd

end

/-! ## Label values -/

/-- What stands for a character is read as the character. -/
theorem readValue?_escape_append (c : Char) (r : List Char) :
    readValue? false (escape c ++ r) = (readValue? false r).map fun (v, r) => (c :: v, r) := by
  unfold escape
  by_cases hbackslash : c = '\\'
  · subst hbackslash
    rfl
  by_cases hquote : c = '"'
  · subst hquote
    rfl
  by_cases hbreak : c = '\n'
  · subst hbreak
    rfl
  rw [if_neg hbackslash, if_neg hquote, if_neg hbreak, List.singleton_append, readValue?,
    if_neg Bool.false_ne_true, if_neg hbackslash, if_neg hquote]

theorem readValue?_escape (v r : List Char) :
    readValue? false (v.flatMap escape ++ '"' :: r) = some (v, r) := by
  induction v with
  | nil => rfl
  | cons c v ih =>
      rw [List.flatMap_cons, List.append_assoc, readValue?_escape_append, ih]
      rfl

theorem not_mem_escape (c : Char) : '\n' ∉ escape c := by
  unfold escape
  split
  · decide
  · split
    · decide
    · split
      · decide
      · rename_i h
        intro hmem
        exact h (List.mem_singleton.mp hmem).symm

/-! ## Labels -/

def IsLabelName (name : String) : Prop :=
  isName isLabelStart isLabelChar name.toList = true

section
variable {l : String × String} {ls : List (String × String)}

theorem readLabel?_write (h : IsLabelName l.1) (r : List Char) :
    readLabel? (writeLabel l ++ r) = some (l, r) := by
  have hname : readName? isLabelStart isLabelChar (l.1.toList ++ '=' :: '"' ::
      (l.2.toList.flatMap escape ++ '"' :: r)) = some (l.1.toList, _) :=
    readName?_append rfl rfl h rfl _
  have hopen : ((after? '=' ('=' :: '"' :: (l.2.toList.flatMap escape ++ '"' :: r))).bind
      (after? '"')) = some (l.2.toList.flatMap escape ++ '"' :: r) := by
    rw [after?_self rfl, Option.bind_some, after?_self rfl]
  simp only [writeLabel, readLabel?, List.append_assoc, List.cons_append, List.nil_append, hname,
    hopen, readValue?_escape, Option.map_some, String.ofList_toList]

theorem after?_writeLabel {d : Char} (h : IsLabelName l.1) (hd : isLabelStart d = false)
    (r : List Char) : after? d (writeLabel l ++ r) = none := by
  simp only [writeLabel, List.append_assoc]
  exact after?_name rfl rfl h hd _

/-- Labels are read up to the brace behind them, if the reader may read as many. -/
theorem readLabels?_join (hne : ls ≠ []) (hnames : ∀ l ∈ ls, IsLabelName l.1) {n : Nat}
    (hn : ls.length ≤ n) (r : List Char) :
    readLabels? n (joinWith [','] (ls.map writeLabel) ++ '\x7d' :: r) = some (ls, r) := by
  -- Behind each label stands a comma, behind the last the brace.
  induction ls generalizing n with
  | nil => exact absurd rfl hne
  | cons l ls ih =>
      obtain ⟨m, rfl⟩ : ∃ m, n = m + 1 := ⟨n - 1, by simp only [List.length_cons] at hn; omega⟩
      have hl : IsLabelName l.1 := hnames l List.mem_cons_self
      cases ls with
      | nil =>
          simp only [List.map_cons, List.map_nil, joinWith, readLabels?,
            after?_writeLabel hl (d := '\x7d') rfl, readLabel?_write hl]
          rw [after?_ne (d := ',') rfl (by decide), after?_self rfl]
          rfl
      | cons l' ls =>
          have hrest := ih (List.cons_ne_nil _ _) (fun k hk => hnames k (List.mem_cons_of_mem l hk))
            (Nat.le_of_succ_le_succ hn)
          simp only [List.map_cons, joinWith, List.append_assoc, readLabels?,
            after?_writeLabel hl (d := '\x7d') rfl, readLabel?_write hl] at hrest ⊢
          rw [List.singleton_append, after?_self rfl]
          simp only [hrest, Option.map_some]

theorem length_le_join (ls : List (String × String)) :
    ls.length ≤ (joinWith [','] (ls.map writeLabel)).length := by
  induction ls with
  | nil => exact Nat.le_refl 0
  | cons l ls ih =>
      have hl : 0 < (writeLabel l).length := by
        simp only [writeLabel, List.length_append, List.length_cons]
        omega
      cases ls with
      | nil => exact hl
      | cons l' ls =>
          simp only [List.map_cons, joinWith, List.length_append, List.length_cons] at ih ⊢
          omega

/-! ## Numbers -/

theorem not_gap_of_mem_writeInt {i : Int} {c : Char} (h : c ∈ Decimal.writeInt i) :
    isGap c = false := by
  cases hgap : isGap c with
  | false => rfl
  | true =>
      rcases Decimal.mem_writeInt h with rfl | hdigit
      · nomatch hgap
      · rcases isGap_iff.mp hgap with rfl | rfl
        · exact absurd hdigit (by decide)
        · exact absurd hdigit (by decide)

theorem skip_writeInt (i : Int) : skip (' ' :: Decimal.writeInt i) = Decimal.writeInt i := by
  cases hw : Decimal.writeInt i with
  | nil => exact absurd hw (Decimal.writeInt_ne_nil i)
  | cons c r =>
      have hc : isGap c = false := not_gap_of_mem_writeInt (hw ▸ List.mem_cons_self)
      rw [skip, List.dropWhile_cons_of_pos rfl]
      exact skip_cons hc r

/-- A number at the end of a line is read, and nothing is left. -/
theorem readEnd?_write (i : Int) : readEnd? (' ' :: Decimal.writeInt i) = some (i, none) := by
  have hall : ∀ c ∈ Decimal.writeInt i, (!isGap c) = true := fun c hc => by
    rw [not_gap_of_mem_writeInt hc]
    rfl
  have hnumber : readNumber? (' ' :: Decimal.writeInt i) = some (i, []) := by
    have htake := @List.takeWhile_append_of_pos _ _ _ [] hall
    have hdrop := @List.dropWhile_append_of_pos _ _ _ [] hall
    rw [List.append_nil] at htake hdrop
    simp only [readNumber?, skip_writeInt, htake, hdrop, Decimal.int?_writeInt, List.takeWhile_nil,
      List.dropWhile_nil, List.append_nil, Option.map_some]
  simp only [readEnd?, hnumber]
  rfl

/-! ## Lines -/

/-- Labels in braces are read, and so are no labels without braces. -/
theorem readBraces?_write (hnames : ∀ l ∈ ls, IsLabelName l.1) (i : Int) :
    readBraces? (writeLabels ls ++ ' ' :: Decimal.writeInt i) =
      some (ls, ' ' :: Decimal.writeInt i) := by
  cases ls with
  | nil =>
      have hnone : after? '\x7b' (' ' :: Decimal.writeInt i) = none := by
        rw [after?, skip_writeInt]
        cases hw : Decimal.writeInt i with
        | nil => rfl
        | cons c r =>
            refine if_neg ?_
            rintro rfl
            rcases Decimal.mem_writeInt (hw ▸ List.mem_cons_self) with h | h
            · nomatch h
            · exact absurd h (by decide)
      simp only [writeLabels, List.isEmpty_nil, if_true, List.nil_append, readBraces?, hnone]
  | cons l ls =>
      have hlength := length_le_join (l :: ls)
      have hread (n : Nat) (hn : (l :: ls).length ≤ n) :=
        readLabels?_join (List.cons_ne_nil l ls) hnames hn (' ' :: Decimal.writeInt i)
      simp only [writeLabels, List.isEmpty_cons, Bool.false_eq_true, if_false, List.append_assoc,
        List.singleton_append, readBraces?]
      refine hread _ ?_
      simp only [List.length_cons, List.length_append] at hlength ⊢
      omega

/-- The line of a sample, without its end. -/
def sampleLine (name : String) (s : Sample) : List Char :=
  name.toList ++ (writeLabels s.labels ++ ' ' :: Decimal.writeInt s.value)

theorem writeSample_eq (name : String) (s : Sample) :
    writeSample name s = sampleLine name s ++ ['\n'] := by
  simp only [writeSample, sampleLine, List.append_assoc, List.singleton_append]

def IsMetricName (name : String) : Prop :=
  isName isMetricStart isMetricChar name.toList = true

theorem readSample?_line {name : String} {s : Sample} (hname : IsMetricName name)
    (hlabels : ∀ l ∈ s.labels, IsLabelName l.1) :
    readSample? (sampleLine name s) = some ⟨name, s.labels, s.value, none⟩ := by
  -- What stands behind the name is a brace or a blank.
  obtain ⟨d, r, hd, hrest⟩ : ∃ d r, isMetricChar d = false ∧
      writeLabels s.labels ++ ' ' :: Decimal.writeInt s.value = d :: r := by
    unfold writeLabels
    split
    · exact ⟨' ', _, rfl, rfl⟩
    · exact ⟨'\x7b', _, rfl, rfl⟩
  have hread : readName? isMetricStart isMetricChar (sampleLine name s) =
      some (name.toList, writeLabels s.labels ++ ' ' :: Decimal.writeInt s.value) := by
    rw [sampleLine, hrest]
    exact readName?_append rfl rfl hname hd r
  simp only [readSample?, hread, readBraces?_write hlabels, readEnd?_write, Option.map_some,
    String.ofList_toList]

end

/-! ## Bodies -/

/-- The name of a family and of its labels are names, and its help text is one line. -/
structure Family.Readable (f : Family) : Prop where
  name : IsMetricName f.name
  help : '\n' ∉ f.help.toList
  labels : ∀ s ∈ f.samples, ∀ l ∈ s.labels, IsLabelName l.1

def Sample.read (name : String) (s : Sample) : ReadSample :=
  ⟨name, s.labels, s.value, none⟩

/-- The lines of a family, without their ends. -/
def Family.lines (f : Family) : List (List Char) :=
  if f.samples.isEmpty then []
  else
    ("# HELP ".toList ++ f.name.toList ++ ' ' :: f.help.toList) ::
      ("# TYPE ".toList ++ f.name.toList ++ " gauge".toList) :: f.samples.map (sampleLine f.name)

theorem writeFamily_eq (f : Family) : writeFamily f = f.lines.flatMap (· ++ ['\n']) := by
  have htype : "\n# TYPE ".toList = '\n' :: "# TYPE ".toList := by decide
  have hgauge : " gauge\n".toList = " gauge".toList ++ ['\n'] := by decide
  have hsamples : f.samples.flatMap (writeSample f.name) =
      (f.samples.map (sampleLine f.name)).flatMap (· ++ ['\n']) := by
    rw [List.flatMap_map]
    exact congrArg f.samples.flatMap (funext (writeSample_eq f.name))
  unfold writeFamily Family.lines
  split
  · rfl
  · simp only [htype, hgauge, hsamples, List.flatMap_cons, List.append_assoc, List.cons_append,
      List.nil_append]

section
variable {f : Family}

theorem not_mem_writeLabel {l : String × String} (h : IsLabelName l.1) : '\n' ∉ writeLabel l := by
  have hname : '\n' ∉ l.1.toList := not_mem_of_isName h rfl rfl
  have hvalue : '\n' ∉ l.2.toList.flatMap escape := fun hmem => by
    obtain ⟨c, -, hc⟩ := List.mem_flatMap.mp hmem
    exact not_mem_escape c hc
  simp only [writeLabel, List.mem_append, hname, hvalue, false_or, or_false]
  decide

theorem not_mem_sampleLine {name : String} {s : Sample} (hname : IsMetricName name)
    (hlabels : ∀ l ∈ s.labels, IsLabelName l.1) : '\n' ∉ sampleLine name s := by
  have hn : '\n' ∉ name.toList := not_mem_of_isName hname rfl rfl
  have hls : '\n' ∉ writeLabels s.labels := by
    unfold writeLabels
    split
    · exact List.not_mem_nil
    · intro h
      simp only [List.mem_append, List.mem_singleton] at h
      rcases h with (h | h) | h
      · nomatch h
      · rcases mem_joinWith h with h | ⟨p, hp, hmem⟩
        · exact absurd h (by decide)
        · obtain ⟨l, hl, rfl⟩ := List.mem_map.mp hp
          exact not_mem_writeLabel (hlabels l hl) hmem
      · nomatch h
  have hv : '\n' ∉ Decimal.writeInt s.value := fun h => by
    rcases Decimal.mem_writeInt h with h | h
    · nomatch h
    · exact absurd h (by decide)
  intro h
  simp only [sampleLine, List.mem_append, List.mem_cons] at h
  rcases h with h | h | h | h
  · exact hn h
  · exact hls h
  · nomatch h
  · exact hv h

theorem Family.Readable.not_mem_lines (h : f.Readable) : ∀ line ∈ f.lines, '\n' ∉ line := by
  have hn : '\n' ∉ f.name.toList := not_mem_of_isName h.name rfl rfl
  intro line hline
  unfold Family.lines at hline
  split at hline
  · nomatch hline
  · rcases List.mem_cons.mp hline with rfl | hline
    · simp only [List.mem_append, List.mem_cons, hn, h.help, or_false]
      decide
    · rcases List.mem_cons.mp hline with rfl | hline
      · simp only [List.mem_append, hn, or_false]
        decide
      · obtain ⟨s, hs, rfl⟩ := List.mem_map.mp hline
        exact not_mem_sampleLine h.name (h.labels s hs)

theorem readLines?_append (as bs : List (List Char)) :
    readLines? (as ++ bs) = (readLines? as).bind fun rs => (readLines? bs).map (rs ++ ·) := by
  induction as with
  | nil => simp [readLines?]
  | cons line as ih =>
      simp only [List.cons_append, readLines?, ih]
      split
      · rfl
      · split
        · rfl
        · cases readLines? as with
          | none => rfl
          | some rs => cases readLines? bs <;> rfl

theorem isRemark_sampleLine {name : String} (h : IsMetricName name) (s : Sample) :
    isRemark (sampleLine name s) = false := by
  unfold IsMetricName at h
  unfold isRemark sampleLine
  cases hname : name.toList with
  | nil =>
      rw [hname] at h
      nomatch h
  | cons c r =>
      rw [hname] at h
      obtain ⟨hc, -⟩ := Bool.and_eq_true_iff.mp h
      rw [List.cons_append, skip_cons (not_gap_of_start rfl rfl hc), List.head?_cons, Option.all_some,
        beq_eq_false_iff_ne]
      rintro rfl
      nomatch hc

theorem readLines?_samples {name : String} (hname : IsMetricName name) {ss : List Sample}
    (hlabels : ∀ s ∈ ss, ∀ l ∈ s.labels, IsLabelName l.1) :
    readLines? (ss.map (sampleLine name)) = some (ss.map (Sample.read name)) := by
  induction ss with
  | nil => rfl
  | cons s ss ih =>
      simp only [List.map_cons, readLines?, isRemark_sampleLine hname, Bool.false_eq_true, if_false,
        readSample?_line hname (hlabels s List.mem_cons_self),
        ih fun t ht => hlabels t (List.mem_cons_of_mem s ht), Option.map_some]
      rfl

/-- Two comments, then the samples. -/
theorem Family.Readable.readLines?_lines (h : f.Readable) :
    readLines? f.lines = some (f.samples.map (Sample.read f.name)) := by
  unfold Family.lines
  split
  · rename_i hempty
    rw [List.isEmpty_iff.mp hempty]
    rfl
  · have hhelp : isRemark ("# HELP ".toList ++ f.name.toList ++ ' ' :: f.help.toList) = true := rfl
    have htype : isRemark ("# TYPE ".toList ++ f.name.toList ++ " gauge".toList) = true := rfl
    simp only [readLines?, hhelp, htype, if_true]
    exact readLines?_samples h.name h.labels

theorem readLines?_families {fs : List Family} (h : ∀ f ∈ fs, f.Readable) :
    readLines? (fs.flatMap Family.lines) =
      some (fs.flatMap fun f => f.samples.map (Sample.read f.name)) := by
  induction fs with
  | nil => rfl
  | cons f fs ih =>
      rw [List.flatMap_cons, readLines?_append, (h f List.mem_cons_self).readLines?_lines,
        ih fun g hg => h g (List.mem_cons_of_mem f hg)]
      rfl

/-- What is written of families reads back as all of their samples, and as nothing else. -/
theorem readBody?_families {fs : List Family} (h : ∀ f ∈ fs, f.Readable) :
    readBody? (String.ofList (fs.flatMap writeFamily)) =
      some (fs.flatMap fun f => f.samples.map (Sample.read f.name)) := by
  have hlines : fs.flatMap writeFamily = (fs.flatMap Family.lines).flatMap (· ++ ['\n']) := by
    rw [List.flatMap_assoc]
    exact congrArg fs.flatMap (funext writeFamily_eq)
  have hbreaks : ∀ line ∈ fs.flatMap Family.lines, '\n' ∉ line := by
    intro line hline
    obtain ⟨f, hf, hmem⟩ := List.mem_flatMap.mp hline
    exact (h f hf).not_mem_lines line hmem
  rw [readBody?, String.toList_ofList, hlines, splitAll_flatMap hbreaks, readLines?_append,
    readLines?_families h]
  -- Behind the last line break stands one more line, which is blank.
  simp [readLines?, isRemark, skip]

end

-- A value that closes its label, ends the line and goes on with a sample of its own is one value.
example : readBody? "up\x7bsubject=\"a\\\"\x7d 1\\nup 2\"\x7d 3\n" =
    some [⟨"up", [("subject", "a\"\x7d 1\nup 2")], 3, none⟩] := by decide

end CertRotation.Metrics
