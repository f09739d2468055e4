/-
The metrics of a store in the text format of Prometheus.

A scrape reports the generation, and the validity of the current leaf if it can
be described.  Label values are escaped, so no certificate name can end its
label or begin a new line.

A gauge is written out in full here.  The text format knows only doubles, and a
number passes through one on its way out, so from 2 ^ 53 on the last digits that
are really written may differ.  No rotation is counted up to there, and the times
of a certificate end with the year 9999.
-/
import CertRotation.CredentialStore

namespace CertRotation.Metrics

open Text

/-- One sample: the labels in alphabetical order and the value. -/
structure Sample where
  labels : List (String × String)
  value : Int
deriving DecidableEq, Repr

/-- The samples under one name. -/
structure Family where
  name : String
  help : String
  samples : List Sample
deriving DecidableEq, Repr

/-- The labels of a certificate's samples. -/
def labels (d : X509.Description) : List (String × String) :=
  [("issuer", d.issuer), ("serial_number", String.ofList (Decimal.write d.serial)),
    ("subject", d.subject)]

def generationName : String := "hello_mtls_identity_generation"
def notBeforeName : String := "hello_mtls_identity_not_before"
def notAfterName : String := "hello_mtls_identity_not_after"

def generationHelp : String := "Number of distinct certificates loaded"
def notBeforeHelp : String := "Current certificate not before timestamp"
def notAfterHelp : String := "Current certificate not after timestamp"

/-- A count of 64 bits as the signed number that a gauge holds. -/
def gaugeOf (count : Nat) : Int :=
  (BitVec.ofNat 64 count).toInt

theorem gaugeOf_of_lt {count : Nat} (h : count < 9223372036854775808) : gaugeOf count = count := by
  unfold gaugeOf
  rw [BitVec.toInt_eq_toNat_of_lt] <;> rw [BitVec.toNat_ofNat] <;> omega

/-- All families of a store, in order of their names. -/
def families (generation : Nat) (leaf : Option X509.Description) : List Family :=
  let sample (value : X509.Description → Int) : List Sample :=
    (leaf.map fun d => ⟨labels d, value d⟩).toList
  [⟨generationName, generationHelp, [⟨[], gaugeOf generation⟩]⟩,
    ⟨notAfterName, notAfterHelp, sample (·.notAfter)⟩,
    ⟨notBeforeName, notBeforeHelp, sample (·.notBefore)⟩]

/-! ## Writing -/

/-- What stands for one character of a label value. -/
def escape (c : Char) : List Char :=
  if c = '\\' then ['\\', '\\']
  else if c = '"' then ['\\', '"']
  else if c = '\n' then ['\\', 'n']
  else [c]

/-- A label and its value. -/
def writeLabel (l : String × String) : List Char :=
  l.1.toList ++ ['=', '"'] ++ l.2.toList.flatMap escape ++ ['"']

/-- The labels of a sample between braces; nothing where there are none. -/
def writeLabels (ls : List (String × String)) : List Char :=
  if ls.isEmpty then [] else ['\x7b'] ++ joinWith [','] (ls.map writeLabel) ++ ['\x7d']

/-- The line of a sample.  Its number is written as it is, which a double holds exactly up to 2 ^ 53. -/
def writeSample (name : String) (s : Sample) : List Char :=
  name.toList ++ writeLabels s.labels ++ [' '] ++ Decimal.writeInt s.value ++ ['\n']

/-- The lines of a family; one without samples is left out. -/
def writeFamily (f : Family) : List Char :=
  if f.samples.isEmpty then []
  else
    "# HELP ".toList ++ f.name.toList ++ [' '] ++ f.help.toList ++ "\n# TYPE ".toList
      ++ f.name.toList ++ " gauge\n".toList ++ f.samples.flatMap (writeSample f.name)

/-- The description of the current leaf. -/
def leaf? (s : CredentialStore) : Option X509.Description :=
  s.current.bind (·.description?)

/-- The body of a scrape. -/
def body (s : CredentialStore) : String :=
  String.ofList ((families s.generation (leaf? s)).flatMap writeFamily)

/-- The events of a scrape. -/
def events (s : CredentialStore) : List Event :=
  match s.current with
  | some i => if i.description?.isNone then [.undescribedLeaf] else []
  | none => []

/-! ## Requests -/

/-- Status and body of an answer. -/
structure Answer where
  status : Nat
  body : String
deriving DecidableEq, Repr

/-- The answer to a request: the metrics are at one path and can only be read. -/
def answer (s : CredentialStore) (method path : String) : Answer × List Event :=
  if path ≠ "/metrics" then (⟨404, ""⟩, [])
  else if method = "GET" then (⟨200, body s⟩, events s)
  else if method = "HEAD" then (⟨200, ""⟩, events s)
  else (⟨405, ""⟩, [])

end CertRotation.Metrics
