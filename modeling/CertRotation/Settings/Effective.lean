/-
The effective value of each setting, one by one.

A variable of the environment comes first, then the file, then the default.
Nothing that is said of one setting bears on another, and a value that a
variable covers is never looked at.
-/
import CertRotation.Settings.Load

namespace CertRotation.Settings

open Document

/-! ## The schema -/

/-- The names of the sections. -/
def sectionNames : List String := ["identity", "refresh", "server", "client", "metrics"]

/-- A setting: its section, which has no name for those outside of all, and its own name. -/
abbrev Place := String × String

/-- All settings. -/
def places : List Place :=
  [("", ["workers", "mode", "url"]), ("identity", identityNames), ("refresh", refreshNames),
    ("server", serverNames), ("client", clientNames), ("metrics", metricsNames)].flatMap
      fun (group, names) => names.map fun name => (group, name)

/-- The key of a setting. -/
def keyOf (p : Place) : String :=
  if p.1 = "" then p.2 else p.1 ++ "." ++ p.2

/-- The sections whose settings have given values. -/
def sectionsWith (value : Place → Option Value) : Sections :=
  let group (g : String) : Section := fun name => (value (g, name)).map fun v => ⟨keyOf (g, name), v⟩
  { top := group ""
    identity := group "identity"
    refresh := group "refresh"
    server := group "server"
    client := group "client"
    metrics := group "metrics" }

/-! ## Effective values -/

/-- The value that the environment gives to a setting; of several variables the last one counts. -/
def valueInEnvironment (env : Environment) (p : Place) : Option Value :=
  (layerOfVariables env).reverse.lookup (keyOf p)

/-- The value that a document gives to a setting. -/
def valueIn (doc : Value) (p : Place) : Option Value :=
  if p.1 = "" then doc.fields.get? p.2
  else (doc.fields.get? p.1).bind fun s => s.fields.get? p.2

/-- The value of a setting that counts, if there is one: a variable comes before the file. -/
def effective (file : Value) (env : Environment) (p : Place) : Option Value :=
  (valueInEnvironment env p).or (valueIn file p)

/-- What a setting is converted to, or its default if it has no value. -/
def conversion (value : Place → Option Value) (p : Place) (f : Entry → Converted α) (default : α) :
    Converted α :=
  match value p with
  | some v => f ⟨keyOf p, v⟩
  | none => .ok default

/-- The settings that have nothing but defaults. -/
def defaults : Settings := {}

/-- Every setting has what its own value is converted to, or its default. -/
structure Converts (value : Place → Option Value) (s : Settings) : Prop where
  workers : conversion value ("", "workers") (Entry.optional Entry.natural) defaults.workers =
    .ok s.workers
  mode : conversion value ("", "mode") Entry.mode defaults.mode = .ok s.mode
  url : conversion value ("", "url") (Entry.optional Entry.text) defaults.url = .ok s.url
  cert : conversion value ("identity", "cert") Entry.text defaults.identity.cert =
    .ok s.identity.cert
  key : conversion value ("identity", "key") Entry.text defaults.identity.key = .ok s.identity.key
  root : conversion value ("identity", "root") Entry.text defaults.identity.root =
    .ok s.identity.root
  refreshInterval : conversion value ("refresh", "interval") Entry.duration
    defaults.refreshInterval = .ok s.refreshInterval
  listen : conversion value ("server", "listen") Entry.address defaults.listen = .ok s.listen
  target : conversion value ("client", "target") (Entry.optional Entry.text)
    defaults.client.target = .ok s.client.target
  serverName : conversion value ("client", "server_name") (Entry.optional Entry.text)
    defaults.client.serverName = .ok s.client.serverName
  name : conversion value ("client", "name") Entry.text defaults.client.name = .ok s.client.name
  requestInterval : conversion value ("client", "request_interval") Entry.duration
    defaults.client.requestInterval = .ok s.client.requestInterval
  timeout : conversion value ("client", "timeout") Entry.duration defaults.client.timeout =
    .ok s.client.timeout
  metricsListen : conversion value ("metrics", "listen") (Entry.optional Entry.address)
    defaults.metricsListen = .ok s.metricsListen

/-! ## Files and variables that name settings -/

/-- The sections of a document are tables, and its fields have names that mean themselves. -/
structure HasSections (doc : Value) : Prop where
  plain : ∀ f ∈ doc.fields, wayOf f.1 = [.field f.1]
  sections : ∀ g ∈ sectionNames, ∀ v, doc.fields.get? g = some v → ∃ fs, v = .table fs

/-- Every variable of the program names a single setting. -/
def NamesSettings (env : Environment) : Prop :=
  ∀ x ∈ env, ∀ k, keyOfVariable? x.1 = some k → k ∈ places.map keyOf

end CertRotation.Settings
