/-
# `Proofs.Greeting` — a request says what it was made of

The separator between verb and name is white space itself, so it goes when a blank name is trimmed
away at the end of a line.  A line is read the same then:

    a verb alone                                      (`ofRequest?_verb`)
    a verb, a space and a text                        (`ofRequest?_line`)
    the same, cut off in the white space at its end   (`ofRequest?_cut`)

No other line is read (`ofRequest?_eq_some_iff_line`), and what is read of one is in normal form: the
request that is made of it is read as the same again (`request_normal_form`).
-/
import CertRotation.Greeting
import CertRotation.Proofs.Text.Blank

namespace CertRotation.Greeting

open Text

/-! ## Verbs -/

theorem ofVerb?_verb (g : Greeting) : ofVerb? g.verb.toList = some g := by
  cases g <;> decide

theorem not_blank_of_mem_verb {g : Greeting} {c : Char} (h : c ∈ g.verb.toList) :
    isBlank c = false := by
  have hall : g.verb.toList.all (fun c => !isBlank c) = true := by
    cases g <;> decide
  simpa using List.all_eq_true.mp hall c h

theorem space_not_mem_verb (g : Greeting) : ' ' ∉ g.verb.toList := by
  intro h
  exact absurd (not_blank_of_mem_verb h) (by decide)

/-! ## Lines -/

/-- A verb, a space and a text. -/
theorem ofRequest?_line (g : Greeting) (text : List Char) :
    ofRequest? (String.ofList (g.verb.toList ++ ' ' :: text)) =
      some (g, String.ofList (trim text)) := by
  simp only [ofRequest?, splitVerb, String.toList_ofList, splitFirst_append (space_not_mem_verb g),
    Option.getD_some, ofVerb?_verb, Option.map_some]

/-- A verb alone asks for no name. -/
theorem ofRequest?_verb (g : Greeting) :
    ofRequest? (String.ofList g.verb.toList) = some (g, "") := by
  simp only [ofRequest?, splitVerb, String.toList_ofList, splitFirst_none (space_not_mem_verb g),
    Option.getD_none, ofVerb?_verb, Option.map_some, trim_nil, String.ofList_nil]

/-- However much of the white space at the end of a line is cut off, it says the same; the separator
of a blank name may be cut off with the name. -/
theorem ofRequest?_cut {g : Greeting} {text cut back : List Char}
    (h : g.verb.toList ++ ' ' :: text = cut ++ back) (hback : ∀ c ∈ back, isBlank c = true) :
    ofRequest? (String.ofList cut) = some (g, String.ofList (trim text)) := by
  rcases List.append_eq_append_iff.mp h with ⟨rest, rfl, hrest⟩ | ⟨lost, hverb, rfl⟩
  · cases rest with
    | nil =>
        rw [List.nil_append] at hrest
        have htext : trim text = [] := trim_eq_nil fun c hc => hback c (hrest ▸ List.mem_cons_of_mem _ hc)
        rw [List.append_nil, ofRequest?_verb, htext, String.ofList_nil]
    | cons c rest =>
        rw [List.cons_append] at hrest
        obtain ⟨rfl, rfl⟩ := List.cons.inj hrest
        rw [ofRequest?_line, trim_append_blanks rest hback]
  · -- No verb has white space in it, so nothing of it is lost.
    have hlost : lost = [] := by
      refine List.eq_nil_iff_forall_not_mem.mpr fun c hc => ?_
      have hword := not_blank_of_mem_verb (g := g) (hverb ▸ List.mem_append_right cut hc)
      rw [hback c (List.mem_append_left _ hc)] at hword
      cases hword
    have htext : trim text = [] :=
      trim_eq_nil fun c hc => hback c (List.mem_append_right _ (List.mem_cons_of_mem _ hc))
    rw [hlost, List.append_nil] at hverb
    rw [← hverb, ofRequest?_verb, htext, String.ofList_nil]

/-- White space at the end of a line says nothing. -/
theorem ofRequest?_trimEnd (g : Greeting) (text : List Char) :
    ofRequest? (String.ofList (trimEnd (g.verb.toList ++ ' ' :: text))) =
      some (g, String.ofList (trim text)) := by
  obtain ⟨back, hback, hblank⟩ := exists_trimEnd (g.verb.toList ++ ' ' :: text)
  exact ofRequest?_cut hback hblank

theorem ofVerb?_eq_some_iff {v : List Char} {g : Greeting} : ofVerb? v = some g ↔ v = g.verb.toList := by
  constructor
  · intro h
    unfold ofVerb? at h
    split at h
    · rename_i hv
      rw [← Option.some.inj h]
      exact hv
    · split at h
      · rename_i hv
        rw [← Option.some.inj h]
        exact hv
      · nomatch h
  · rintro rfl
    exact ofVerb?_verb g

/-- Where the first space is, the verb ends; white space in front of the name does not count, so the
space may be taken for a part of either. -/
theorem splitVerb_eq (line : List Char) :
    (splitVerb line).1 = line.takeWhile (· ≠ ' ') ∧
    trim (splitVerb line).2 = trim (line.dropWhile (· ≠ ' ')) := by
  unfold splitVerb
  by_cases hspace : ' ' ∈ line
  · rw [splitFirst_of_mem hspace, Option.getD_some]
    refine ⟨rfl, ?_⟩
    have hne : line.dropWhile (· ≠ ' ') ≠ [] := by
      intro h
      exact absurd (List.dropWhile_eq_nil_iff.mp h ' ' hspace) (by decide)
    obtain ⟨c, rest, hrest⟩ := List.exists_cons_of_ne_nil hne
    have hfirst := List.head?_dropWhile_not (· ≠ ' ') line
    rw [hrest, List.head?_cons] at hfirst
    have hc : c = ' ' := by simpa using hfirst
    rw [hrest, hc]
    rfl
  · have hall (c : Char) (hc : c ∈ line) : decide (c ≠ ' ') = true :=
      decide_eq_true fun e => hspace (e ▸ hc)
    rw [splitFirst_none hspace, Option.getD_none, List.takeWhile_eq_self_iff.mpr hall,
      List.dropWhile_eq_nil_iff.mpr hall]
    exact ⟨rfl, rfl⟩

/-- A line asks for what its first word and the rest say, and other lines ask for nothing. -/
theorem ofRequest?_eq_some_iff {line : List Char} {g : Greeting} {name : String} :
    ofRequest? (String.ofList line) = some (g, name) ↔
      line.takeWhile (· ≠ ' ') = g.verb.toList ∧
      trim (line.dropWhile (· ≠ ' ')) = name.toList := by
  obtain ⟨hverb, hname⟩ := splitVerb_eq line
  unfold ofRequest?
  rw [String.toList_ofList, ← hverb, ← hname]
  simp only [Option.map_eq_some_iff, ofVerb?_eq_some_iff, Prod.mk.injEq]
  constructor
  · rintro ⟨g', hg, rfl, rfl⟩
    exact ⟨hg, String.toList_ofList.symm⟩
  · rintro ⟨hg, hn⟩
    exact ⟨g, hg, rfl, by rw [hn, String.ofList_toList]⟩

/-- The request line is the verb, a space, the name and the line feed. -/
theorem toList_request (g : Greeting) (name : String) :
    (g.request name).toList = g.verb.toList ++ ' ' :: (name.toList ++ ['\n']) := by
  unfold request
  simp only [String.toList_append, List.append_assoc]
  rfl

/-- The lines that ask for something are a verb alone and a verb, a space and a text. -/
theorem ofRequest?_eq_some_iff_line {line : String} {g : Greeting} {name : String} :
    ofRequest? line = some (g, name) ↔
      line.toList = g.verb.toList ∧ name = "" ∨
      ∃ text, line.toList = g.verb.toList ++ ' ' :: text ∧ name = String.ofList (trim text) := by
  constructor
  · intro h
    rw [ofRequest?, splitVerb] at h
    cases hsplit : splitFirst ' ' line.toList with
    | none =>
        rw [hsplit, Option.getD_none, Option.map_eq_some_iff] at h
        obtain ⟨g', hverb, hparts⟩ := h
        obtain ⟨rfl, rfl⟩ := Prod.mk.inj hparts
        exact Or.inl ⟨ofVerb?_eq_some_iff.mp hverb, rfl⟩
    | some parts =>
        obtain ⟨verb, text⟩ := parts
        rw [hsplit, Option.getD_some, Option.map_eq_some_iff] at h
        obtain ⟨g', hverb, hparts⟩ := h
        obtain ⟨rfl, rfl⟩ := Prod.mk.inj hparts
        obtain ⟨hline, -⟩ := splitFirst_eq_some_iff.mp hsplit
        rw [ofVerb?_eq_some_iff.mp hverb] at hline
        exact Or.inr ⟨text, hline, rfl⟩
  · rintro (⟨hline, rfl⟩ | ⟨text, hline, rfl⟩)
    · rw [← String.ofList_toList (s := line), hline]
      exact ofRequest?_verb g
    · rw [← String.ofList_toList (s := line), hline]
      exact ofRequest?_line g text

/-! ## Requests and lines -/

theorem exists_verb_iff (p : String → Prop) :
    (∃ verb ∈ ["HELLO", "AGAIN"], p verb) ↔ ∃ g : Greeting, p g.verb := by
  constructor
  · rintro ⟨verb, hmem, hp⟩
    rcases List.mem_cons.mp hmem with rfl | hmem
    · exact ⟨.hello, hp⟩
    · rw [List.mem_singleton.mp hmem] at hp
      exact ⟨.helloAgain, hp⟩
  · rintro ⟨g, hp⟩
    cases g with
    | hello => exact ⟨_, List.mem_cons_self, hp⟩
    | helloAgain => exact ⟨_, List.mem_cons_of_mem _ List.mem_cons_self, hp⟩

/-- A line asks for something if it is a verb, or a verb and a space and anything. -/
theorem isSome_ofRequest?_iff (line : String) :
    (ofRequest? line).isSome = true ↔
      ∃ verb ∈ ["HELLO", "AGAIN"], line = verb ∨ ∃ rest, line = verb ++ " " ++ rest := by
  rw [exists_verb_iff, Option.isSome_iff_exists]
  constructor
  · rintro ⟨⟨g, name⟩, h⟩
    refine ⟨g, ?_⟩
    rcases ofRequest?_eq_some_iff_line.mp h with ⟨hline, -⟩ | ⟨text, hline, -⟩
    · exact Or.inl (String.toList_inj.mp hline)
    · refine Or.inr ⟨String.ofList text, String.toList_inj.mp ?_⟩
      simp [hline]
  · rintro ⟨g, rfl | ⟨rest, rfl⟩⟩
    · exact ⟨_, ofRequest?_eq_some_iff_line.mpr (Or.inl ⟨rfl, rfl⟩)⟩
    · refine ⟨(g, String.ofList (trim rest.toList)), ?_⟩
      exact ofRequest?_eq_some_iff_line.mpr (Or.inr ⟨rest.toList, by simp, rfl⟩)

/-- The name that is read from a line has no white space at its ends. -/
theorem trimmed_of_ofRequest? {line : String} {g : Greeting} {name : String}
    (h : ofRequest? line = some (g, name)) : Trimmed name.toList := by
  rcases ofRequest?_eq_some_iff_line.mp h with ⟨-, rfl⟩ | ⟨text, -, rfl⟩
  · exact trimmed_trim []
  · rw [String.toList_ofList]
    exact trimmed_trim text

/-- What a request is made of is read from it, however much of the white space at its end is cut
off. -/
theorem ofRequest?_of_request {g : Greeting} {name : String} {cut back : List Char}
    (h : (g.request name).toList = cut ++ back) (hback : ∀ c ∈ back, isBlank c = true) :
    ofRequest? (String.ofList cut) = some (g, String.ofList (trim name.toList)) := by
  rw [toList_request] at h
  have hfeed : ∀ c ∈ ['\n'], isBlank c = true := by
    intro c hc
    rw [List.mem_singleton.mp hc]
    decide
  rw [ofRequest?_cut h hback, trim_append_blanks _ hfeed]

/-- Requests and lines.  A request is read as its greeting and the one text that is left of its name
without the white space at the ends, whether the white space at its own end stands, goes or goes in
part.  A line is read if it is a verb or begins with a verb and a space; the name that is read has no
white space at its ends, and the request that is made of what is read is read as the same. -/
theorem request_normal_form :
    (∀ (g : Greeting) (name : String), ∃ m : String,
      (∀ m', TrimsTo name.toList m' ↔ m' = m.toList) ∧
      ofRequest? (g.request name) = some (g, m) ∧
      ∀ cut back, (g.request name).toList = cut ++ back → (∀ c ∈ back, isBlank c = true) →
        ofRequest? (String.ofList cut) = some (g, m)) ∧
    (∀ line : String, (ofRequest? line).isSome = true ↔
      ∃ verb ∈ ["HELLO", "AGAIN"], line = verb ∨ ∃ rest, line = verb ++ " " ++ rest) ∧
    ∀ (line : String) (g : Greeting) (name : String), ofRequest? line = some (g, name) →
      Trimmed name.toList ∧ ofRequest? (g.request name) = some (g, name) := by
  have hwhole (g : Greeting) (name : String) :
      ofRequest? (g.request name) = some (g, String.ofList (trim name.toList)) := by
    have hread := ofRequest?_of_request (List.append_nil (g.request name).toList).symm
      (fun c hc => absurd hc List.not_mem_nil)
    rwa [String.ofList_toList] at hread
  refine ⟨?_, isSome_ofRequest?_iff, ?_⟩
  · intro g name
    refine ⟨String.ofList (trim name.toList), ?_, hwhole g name, ?_⟩
    · intro m'
      rw [trimsTo_iff, String.toList_ofList, eq_comm]
    · intro cut back hcut hback
      exact ofRequest?_of_request hcut hback
  · intro line g name h
    have hname := trimmed_of_ofRequest? h
    refine ⟨hname, ?_⟩
    rw [hwhole, hname.trim_eq, String.ofList_toList]

/-- Of a request for a blank name nothing but the verb need be left. -/
theorem request_normal_form_blank : ∃ m : String,
    TrimsTo " \u2003".toList m.toList ∧
    (Greeting.hello.request " \u2003").toList = "HELLO".toList ++ "  \u2003\n".toList ∧
    (∀ c ∈ "  \u2003\n".toList, isBlank c = true) ∧
    ofRequest? "HELLO" = some (.hello, m) ∧ Trimmed m.toList ∧
    ofRequest? (Greeting.hello.request m) = some (.hello, m) := by
  obtain ⟨hreads, -, hnormal⟩ := request_normal_form
  obtain ⟨m, hm, -, hcut⟩ := hreads .hello " \u2003"
  have hline : (Greeting.hello.request " \u2003").toList = "HELLO".toList ++ "  \u2003\n".toList := by
    decide
  have hblank : ∀ c ∈ "  \u2003\n".toList, isBlank c = true :=
    List.all_eq_true.mp (by decide)
  have hread : ofRequest? "HELLO" = some (.hello, m) := hcut _ _ hline hblank
  obtain ⟨htrimmed, hagain⟩ := hnormal _ _ _ hread
  exact ⟨m, (hm _).mpr rfl, hline, hblank, hread, htrimmed, hagain⟩

end CertRotation.Greeting
