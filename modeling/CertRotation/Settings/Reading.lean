/-
Settings read from a document: one conversion for each type of setting.

A setting that is missing has its default.  A section is a table, or a list of
its settings in order.  Whether settings make sense together is decided after
all of them have been read.
-/
import CertRotation.Error
import CertRotation.Settings.Duration
import CertRotation.Settings.Layer

namespace CertRotation.Settings

open Text Document

/-- A value and the key that names it. -/
structure Entry where
  key : String
  value : Value

/-- The outcome of a conversion. -/
abbrev Converted (α : Type) := Except SettingsError α

namespace Entry

/-- A value of the wrong type. -/
def wrongType (e : Entry) : SettingsError := .wrongType (some e.key)

/-- A text; numbers and truth values are written out. -/
def text (e : Entry) : Converted String :=
  match e.value with
  | .text s => .ok s
  | .bool b => .ok (if b then "true" else "false")
  | .int i => .ok (String.ofList (Decimal.writeInt i))
  | .real x => .ok (String.ofList x.write)
  | .null | .list _ | .table _ => .error e.wrongType

/-- A number that some words stand for as well. -/
def wordNumber? (s : String) : Option Nat :=
  let w := String.ofList (s.toList.map Settings.toLower)
  if ["true", "on", "yes"].contains w then some 1
  else if ["false", "off", "no"].contains w then some 0
  else Decimal.unsigned? Decimal.maxWord s.toList

/-- A natural number of 64 bits. -/
def natural (e : Entry) : Converted Nat :=
  let read : Option Nat := match e.value with
    | .int i => if 0 ≤ i then some i.toNat else none
    | .bool b => some (if b then 1 else 0)
    | .real x => some x.toWord
    | .text s => wordNumber? s
    | .null | .list _ | .table _ => none
  match read with
  | some n => .ok n
  | none => .error e.wrongType

/-- The address of a socket. -/
def address (e : Entry) : Converted Net.SocketAddress :=
  match e.text with
  | .error f => .error f
  | .ok s =>
    match Net.SocketAddress.parse? s.toList with
    | some a => .ok a
    | none => .error (.message "invalid socket address syntax")

/-- A duration, which is always a text. -/
def duration (e : Entry) : Converted Duration :=
  match e.value with
  | .text s =>
    match Duration.parse? s.toList with
    | some d => .ok d
    | none => .error (.message ("invalid duration: " ++ s))
  | _ => .error (.message "invalid type: expected a duration")

/-- A role by its name. -/
def modeNamed (name : String) : Converted Mode :=
  match name with
  | "server" => .ok .server
  | "client" => .ok .client
  | s => .error (.message ("unknown mode: " ++ s))

/-- A role: its name, or a table whose only field has that name. -/
def mode (e : Entry) : Converted Mode :=
  match e.value with
  | .text s => modeNamed s
  | .table [(s, _)] => modeNamed s
  | _ => .error (.message "invalid type: expected a mode")

/-- A setting that null leaves out. -/
def optional (f : Entry → Converted α) (e : Entry) : Converted (Option α) :=
  match e.value with
  | .null => .ok none
  | _ => (f e).map some

end Entry

/-! ## Sections -/

/-- The entries of a section by the names of its settings. -/
abbrev Section := String → Option Entry

/-- The entries of a table. -/
def tableEntries (start : String) (fs : Fields) : Section := fun k =>
  (fs.get? k).map fun v => ⟨start ++ k, v⟩

/-- The entries of a list, whose items are the settings in a given order. -/
def listEntries (start : String) (names : List String) (vs : List Value) : Section := fun k =>
  (names.idxOf? k).bind fun i =>
    vs[i]?.map fun v => ⟨start ++ "[" ++ String.ofList (Decimal.write i) ++ "]", v⟩

/-- The entries of a section; a missing section has none. -/
def sectionOf (fs : Fields) (name : String) (names : List String) : Converted Section :=
  match fs.get? name with
  | none => .ok fun _ => none
  | some (.table fs) => .ok (tableEntries (name ++ ".") fs)
  | some (.list vs) => .ok (listEntries name names vs)
  | some _ => .error (.message ("invalid type: expected the section " ++ name))

/-- A setting of a section, or its default. -/
def setting (s : Section) (k : String) (f : Entry → Converted α) (default : α) : Converted α :=
  match s k with
  | some e => f e
  | none => .ok default

/-- The entries of all sections; `top` holds the settings outside of them. -/
structure Sections where
  top : Section
  identity : Section
  refresh : Section
  server : Section
  client : Section
  metrics : Section

/-- The names of the settings of each section, in order. -/
def identityNames : List String := ["cert", "key", "root"]
def refreshNames : List String := ["interval"]
def serverNames : List String := ["listen"]
def clientNames : List String := ["target", "server_name", "name", "request_interval", "timeout"]
def metricsNames : List String := ["listen"]

/-- The sections of a document. -/
def sections (doc : Value) : Converted Sections := do
  let fs := doc.fields
  let identity ← sectionOf fs "identity" identityNames
  let refresh ← sectionOf fs "refresh" refreshNames
  let server ← sectionOf fs "server" serverNames
  let client ← sectionOf fs "client" clientNames
  let metrics ← sectionOf fs "metrics" metricsNames
  return { top := tableEntries "" fs, identity, refresh, server, client, metrics }

/-- The files of the identity. -/
def readIdentity (s : Section) : Converted IdentityPaths := do
  let d : IdentityPaths := {}
  let cert ← setting s "cert" Entry.text d.cert
  let key ← setting s "key" Entry.text d.key
  let root ← setting s "root" Entry.text d.root
  return { cert, key, root }

/-- The settings of a client. -/
def readClient (s : Section) : Converted ClientSettings := do
  let d : ClientSettings := {}
  let target ← setting s "target" (Entry.optional Entry.text) d.target
  let serverName ← setting s "server_name" (Entry.optional Entry.text) d.serverName
  let name ← setting s "name" Entry.text d.name
  let requestInterval ← setting s "request_interval" Entry.duration d.requestInterval
  let timeout ← setting s "timeout" Entry.duration d.timeout
  return { target, serverName, name, requestInterval, timeout }

/-- The settings that some sections hold. -/
def readSections (s : Sections) : Converted Settings := do
  let d : Settings := {}
  let workers ← setting s.top "workers" (Entry.optional Entry.natural) d.workers
  let mode ← setting s.top "mode" Entry.mode d.mode
  let identity ← readIdentity s.identity
  let refreshInterval ← setting s.refresh "interval" Entry.duration d.refreshInterval
  let listen ← setting s.server "listen" Entry.address d.listen
  let client ← readClient s.client
  let metricsListen ← setting s.metrics "listen" (Entry.optional Entry.address) d.metricsListen
  let url ← setting s.top "url" (Entry.optional Entry.text) d.url
  return { workers, mode, identity, refreshInterval, listen, client, metricsListen, url }

/-- The settings that a document holds. -/
def read (doc : Value) : Converted Settings :=
  (sections doc).bind readSections

/-! ## Settings as a whole -/

/-- A client without a target takes the one that `url` gives. -/
def resolveTarget (s : Settings) : Settings :=
  match s.client.target with
  | some _ => s
  | none => { s with client := { s.client with target := s.url }, url := none }

/-- Refuses a period of zero. -/
def validate (s : Settings) : Converted Settings :=
  if s.refreshInterval.isZero then .error (.notPositive "refresh.interval")
  else if s.client.requestInterval.isZero then .error (.notPositive "client.request_interval")
  else .ok s

/-- Settings that have been read, made ready for a run. -/
def settle (s : Settings) : Converted Settings :=
  validate (resolveTarget s)

/-- The settings of a run from the document of all layers. -/
def ofDocument (doc : Value) : Converted Settings :=
  (read doc).bind settle

end CertRotation.Settings
