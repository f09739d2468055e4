/-
# `Proofs.Settings.Loading` — what a run gets for its settings

Loading lays the environment over the file and then converts.  Since every setting of the layered
document has its effective value, the whole of loading is the conversion of effective values,
errors included (`load_eq`).  From there the rest is about one setting at a time, and about the two
things that look at several: `url` as a stand-in for the target, and the periods that may not be zero.
-/
import CertRotation.Proofs.Settings.Layering
import CertRotation.Proofs.Text.Utf8

namespace CertRotation.Settings

open Document Text

/-! ## Conversion, setting by setting -/

/-- What comes of two conversions, one after the other. -/
theorem Converted.bind_eq_ok_iff {α β : Type} {x : Converted α} {f : α → Converted β} {b : β} :
    (x >>= f) = .ok b ↔ ∃ a, x = .ok a ∧ f a = .ok b := by
  cases x with
  | error e =>
      constructor
      · intro h
        nomatch h
      · rintro ⟨a, ha, -⟩
        nomatch ha
  | ok a =>
      constructor
      · intro h
        exact ⟨a, rfl, h⟩
      · rintro ⟨a', ha, h⟩
        rw [← Except.ok.inj ha] at h
        exact h

section
variable {value value' : Place → Option Value}

theorem setting_group {α : Type} (value : Place → Option Value) (g name : String)
    (f : Entry → Converted α) (d : α) :
    setting (fun name => (value (g, name)).map fun v => ⟨keyOf (g, name), v⟩) name f d =
      conversion value (g, name) f d := by
  unfold setting conversion
  dsimp only
  cases value (g, name) with
  | none => rfl
  | some v => rfl

/-- Reading sections is to convert each of their settings. -/
theorem readSections_eq_ok_iff {s : Settings} :
    readSections (sectionsWith value) = .ok s ↔ Converts value s := by
  simp only [readSections, readIdentity, readClient, sectionsWith, setting_group]
  constructor
  · intro h
    obtain ⟨workers, hworkers, h⟩ := Converted.bind_eq_ok_iff.mp h
    obtain ⟨mode, hmode, h⟩ := Converted.bind_eq_ok_iff.mp h
    obtain ⟨identity, hidentity, h⟩ := Converted.bind_eq_ok_iff.mp h
    obtain ⟨cert, hcert, hidentity⟩ := Converted.bind_eq_ok_iff.mp hidentity
    obtain ⟨key, hkey, hidentity⟩ := Converted.bind_eq_ok_iff.mp hidentity
    obtain ⟨root, hroot, hidentity⟩ := Converted.bind_eq_ok_iff.mp hidentity
    obtain ⟨refreshInterval, hrefresh, h⟩ := Converted.bind_eq_ok_iff.mp h
    obtain ⟨listen, hlisten, h⟩ := Converted.bind_eq_ok_iff.mp h
    obtain ⟨client, hclient, h⟩ := Converted.bind_eq_ok_iff.mp h
    obtain ⟨target, htarget, hclient⟩ := Converted.bind_eq_ok_iff.mp hclient
    obtain ⟨serverName, hserverName, hclient⟩ := Converted.bind_eq_ok_iff.mp hclient
    obtain ⟨name, hname, hclient⟩ := Converted.bind_eq_ok_iff.mp hclient
    obtain ⟨requestInterval, hrequest, hclient⟩ := Converted.bind_eq_ok_iff.mp hclient
    obtain ⟨timeout, htimeout, hclient⟩ := Converted.bind_eq_ok_iff.mp hclient
    obtain ⟨metricsListen, hmetrics, h⟩ := Converted.bind_eq_ok_iff.mp h
    obtain ⟨url, hurl, h⟩ := Converted.bind_eq_ok_iff.mp h
    obtain rfl := Except.ok.inj hidentity
    obtain rfl := Except.ok.inj hclient
    obtain rfl := Except.ok.inj h
    exact ⟨hworkers, hmode, hurl, hcert, hkey, hroot, hrefresh, hlisten, htarget, hserverName, hname,
      hrequest, htimeout, hmetrics⟩
  · rintro ⟨hworkers, hmode, hurl, hcert, hkey, hroot, hrefresh, hlisten, htarget, hserverName, hname,
      hrequest, htimeout, hmetrics⟩
    simp only [defaults] at *
    rw [hworkers, hmode, hurl, hcert, hkey, hroot, hrefresh, hlisten, htarget, hserverName, hname,
      hrequest, htimeout, hmetrics]
    rfl

/-- Only the values of settings are read. -/
theorem readSections_congr (h : ∀ p ∈ places, value p = value' p) :
    readSections (sectionsWith value) = readSections (sectionsWith value') := by
  have hconversion {α : Type} (p : Place) (hp : p ∈ places) (f : Entry → Converted α) (d : α) :
      conversion value p f d = conversion value' p f d := by
    unfold conversion
    rw [h p hp]
  simp only [readSections, readIdentity, readClient, sectionsWith, setting_group]
  rw [hconversion ("", "workers") (by decide), hconversion ("", "mode") (by decide),
    hconversion ("identity", "cert") (by decide), hconversion ("identity", "key") (by decide),
    hconversion ("identity", "root") (by decide), hconversion ("refresh", "interval") (by decide),
    hconversion ("server", "listen") (by decide), hconversion ("client", "target") (by decide),
    hconversion ("client", "server_name") (by decide), hconversion ("client", "name") (by decide),
    hconversion ("client", "request_interval") (by decide),
    hconversion ("client", "timeout") (by decide), hconversion ("metrics", "listen") (by decide),
    hconversion ("", "url") (by decide)]

end

/-! ## Settings as a whole -/

/-- The periods that may not be zero are not. -/
structure HasPeriods (s : Settings) : Prop where
  refreshInterval : 0 < s.refreshInterval.nanos
  requestInterval : 0 < s.client.requestInterval.nanos

theorem isZero_eq_false_iff {d : Duration} : d.isZero = false ↔ 0 < d.nanos := by
  unfold Duration.isZero
  rw [beq_eq_false_iff_ne]
  exact Nat.pos_iff_ne_zero.symm

/-- To settle is to let `url` stand in for a missing target, and to refuse a period of zero. -/
theorem settle_eq_ok_iff {raw s : Settings} :
    settle raw = .ok s ↔ HasPeriods raw ∧ s = resolveTarget raw := by
  have hrefresh : (resolveTarget raw).refreshInterval = raw.refreshInterval := by
    unfold resolveTarget
    split <;> rfl
  have hrequest : (resolveTarget raw).client.requestInterval = raw.client.requestInterval := by
    unfold resolveTarget
    split <;> rfl
  unfold settle validate
  rw [hrefresh, hrequest]
  constructor
  · intro h
    split at h
    · nomatch h
    · rename_i hfirst
      split at h
      · nomatch h
      · rename_i hsecond
        exact ⟨⟨isZero_eq_false_iff.mp (Bool.eq_false_iff.mpr hfirst),
          isZero_eq_false_iff.mp (Bool.eq_false_iff.mpr hsecond)⟩, (Except.ok.inj h).symm⟩
  · rintro ⟨⟨hfirst, hsecond⟩, rfl⟩
    rw [isZero_eq_false_iff.mpr hfirst, isZero_eq_false_iff.mpr hsecond]
    rfl

theorem HasPeriods.resolveTarget {s : Settings} (h : HasPeriods s) :
    HasPeriods (Settings.resolveTarget s) := by
  unfold Settings.resolveTarget
  split
  · exact h
  · exact ⟨h.refreshInterval, h.requestInterval⟩

/-! ## Loading -/

section
variable {files : FileTree} {env : Environment} {doc : Value}

/-- Loading converts the effective values, and fails as their conversion does. -/
theorem load_eq (hdoc : fileDocument files = .ok doc) (hfile : HasSections doc)
    (henv : NamesSettings env) :
    load files env = (readSections (sectionsWith (effective doc env))).bind settle := by
  have hwf := wellFormed_fileDocument hdoc
  unfold load
  rw [hdoc]
  show ofDocument (ofLayers [layerOf doc, layerOfVariables env]) = _
  unfold ofDocument read
  rw [sections_eq (laid_ofLayers hwf hfile henv)]
  show (readSections _).bind settle = _
  rw [readSections_congr fun p hp => valueIn_ofLayers hwf hfile henv hp]

/-- One more variable changes the setting that it names and no other. -/
theorem effective_append (doc : Value) (env : Environment) {name : String} {p q : Place}
    (hname : keyOfVariable? name = some (keyOf p)) (hp : p ∈ places) (hq : q ∈ places)
    (value : String) :
    effective doc (env ++ [(name, value)]) q =
      if q = p then some (.text value) else effective doc env q := by
  have hlayer : layerOfVariables (env ++ [(name, value)]) =
      layerOfVariables env ++ [(keyOf p, .text value)] := by
    unfold layerOfVariables
    rw [List.filterMap_append]
    simp only [List.filterMap_cons, hname, Option.map_some, List.filterMap_nil]
  unfold effective valueInEnvironment
  rw [hlayer, List.reverse_append, List.reverse_singleton, List.singleton_append]
  by_cases hqp : q = p
  · rw [hqp, List.lookup_cons_self, if_pos rfl]
    rfl
  · have hkey : keyOf q ≠ keyOf p := fun h => hqp (keyOf_inj q hq p hp h)
    rw [if_neg hqp, List.lookup_cons, beq_false_of_ne hkey]

/-- Loading from a file whose sections are tables, or from none, and from variables that name single
settings.  It succeeds exactly if every effective value converts and no period is zero; then each
setting has what its own effective value is converted to, or its default, but for a missing target,
which takes what `url` has and leaves that empty.  One more variable bears on its own setting only, and
what the file says of a setting that a variable names does not matter, be it nonsense. -/
theorem load_by_setting (hdoc : fileDocument files = .ok doc) (hfile : HasSections doc)
    (henv : NamesSettings env) :
    (∀ s, load files env = .ok s ↔
      ∃ raw, Converts (effective doc env) raw ∧ HasPeriods raw ∧
        (raw.client.target ≠ none → s = raw) ∧
        (raw.client.target = none →
          s = { raw with client := { raw.client with target := raw.url }, url := none })) ∧
    (∀ s, load files env = .ok s → HasPeriods s) ∧
    (∀ name p value, keyOfVariable? name = some (keyOf p) → p ∈ places → ∀ q ∈ places,
      effective doc (env ++ [(name, value)]) q =
        if q = p then some (.text value) else effective doc env q) ∧
    (∀ files' doc', fileDocument files' = .ok doc' → HasSections doc' →
      (∀ p ∈ places, valueInEnvironment env p = none → valueIn doc' p = valueIn doc p) →
      load files' env = load files env) := by
  have hload := load_eq hdoc hfile henv
  have hok (s : Settings) : load files env = .ok s ↔
      ∃ raw, Converts (effective doc env) raw ∧ HasPeriods raw ∧ s = resolveTarget raw := by
    rw [hload]
    constructor
    · intro h
      obtain ⟨raw, hraw, hsettle⟩ := Converted.bind_eq_ok_iff.mp h
      exact ⟨raw, readSections_eq_ok_iff.mp hraw, settle_eq_ok_iff.mp hsettle⟩
    · rintro ⟨raw, hraw, hsettle⟩
      exact Converted.bind_eq_ok_iff.mpr
        ⟨raw, readSections_eq_ok_iff.mpr hraw, settle_eq_ok_iff.mpr hsettle⟩
  have hresolve (raw s : Settings) : s = resolveTarget raw ↔
      (raw.client.target ≠ none → s = raw) ∧ (raw.client.target = none →
        s = { raw with client := { raw.client with target := raw.url }, url := none }) := by
    unfold resolveTarget
    cases htarget : raw.client.target with
    | none => exact ⟨fun h => ⟨fun hne => absurd rfl hne, fun _ => h⟩, fun h => h.2 rfl⟩
    | some t =>
        exact ⟨fun h => ⟨fun _ => h, fun hnone => absurd hnone (Option.some_ne_none t)⟩,
          fun h => h.1 (Option.some_ne_none t)⟩
  refine ⟨?_, ?_, ?_, ?_⟩
  · intro s
    rw [hok]
    simp only [hresolve]
  · intro s hs
    obtain ⟨raw, -, hperiods, rfl⟩ := (hok s).mp hs
    exact hperiods.resolveTarget
  · intro name p value hname hp q hq
    exact effective_append doc env hname hp hq value
  · intro files' doc' hdoc' hfile' hsame
    rw [hload, load_eq hdoc' hfile' henv]
    refine congrArg (Except.bind · settle) (readSections_congr ?_)
    intro p hp
    unfold effective
    cases hvariable : valueInEnvironment env p with
    | none => rw [hsame p hp hvariable]
    | some v => rfl

end

/-! ### A file with a mistake that a variable covers -/

/-- The timeout is no duration. -/
def mistaken : String :=
  "\x7b\"url\":\"greeter:443\",\"client\":\x7b\"name\":\"Ada\",\"timeout\":5\x7d\x7d"

def mistakenFiles : FileTree :=
  FileTree.empty.write "config.json" (Utf8.encode mistaken.toList)

def mistakenDocument : Value :=
  (Json.parse? mistaken.toList).getD .null

theorem parse?_mistaken : Json.parse? mistaken.toList = some mistakenDocument := by
  have hread : (Json.parse? mistaken.toList).isSome = true := by decide +kernel
  obtain ⟨doc, hdoc⟩ := Option.isSome_iff_exists.mp hread
  rw [mistakenDocument, hdoc, Option.getD_some]

theorem fileDocument_mistaken : fileDocument mistakenFiles = .ok mistakenDocument := by
  have hnone : mistakenFiles.read fileName = .error .notFound := by decide +kernel
  have htoml : mistakenFiles.read (fileName ++ "." ++ "toml") = .error .notFound := by decide +kernel
  have hjson : mistakenFiles.read (fileName ++ "." ++ "json") = .ok (Utf8.encode mistaken.toList) := by
    decide +kernel
  have hfound : findFile? mistakenFiles = some (Utf8.encode mistaken.toList, Json.parse?) := by
    unfold findFile? formats
    rw [hnone]
    simp only [List.findSome?_cons, htoml, hjson]
    rfl
  unfold fileDocument
  rw [hfound]
  simp only [Utf8.decode?_encode, parse?_mistaken]

def isTable : Value → Bool
  | .table _ => true
  | _ => false

theorem hasSections_mistaken : HasSections mistakenDocument where
  plain := by decide +kernel
  sections := by
    have htables : ∀ g ∈ sectionNames, (mistakenDocument.fields.get? g).all isTable = true := by
      decide +kernel
    intro g hg v hv
    have htable := htables g hg
    rw [hv, Option.all_some] at htable
    cases v with
    | table fs => exact ⟨fs, rfl⟩
    | _ => exact Bool.noConfusion htable

/-- The variable counts, and so do the file's other settings and the defaults of a section that only a
variable names. -/
theorem load_by_setting_mistaken :
    let env := [("HELLO_MTLS_CLIENT__TIMEOUT", "7s"), ("hello_mtls_refresh__interval", "1m")]
    NamesSettings env ∧
    load mistakenFiles env = .ok { defaults with
      refreshInterval := .ofSecs 60
      client := { defaults.client with
        target := some "greeter:443", name := "Ada", timeout := .ofSecs 7 } } := by
  intro env
  have henv : NamesSettings env := by
    intro x hx k hk
    rcases List.mem_cons.mp hx with rfl | hx
    · rw [← Option.some.inj hk]
      decide +kernel
    · rw [List.mem_singleton.mp hx] at hk
      rw [← Option.some.inj hk]
      decide +kernel
  refine ⟨henv, ?_⟩
  refine ((load_by_setting fileDocument_mistaken hasSections_mistaken henv).1 _).mpr
    ⟨{ defaults with
        refreshInterval := .ofSecs 60
        client := { defaults.client with name := "Ada", timeout := .ofSecs 7 }
        url := some "greeter:443" }, ?_, ⟨by decide, by decide⟩, fun h => absurd rfl h, fun _ => rfl⟩
  constructor <;> decide +kernel

end CertRotation.Settings
