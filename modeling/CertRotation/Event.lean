/-
What a run reports while it goes on: one event for each thing worth a log line.

Events are data, so that laws can count them; their wording and level are given
by two functions.
-/
import CertRotation.Error
import CertRotation.X509.Description

namespace CertRotation

/-- How important an event is. -/
inductive Level where
  | debug
  | info
  | warn
  | error
deriving DecidableEq, Repr

/-- The name of a level. -/
def Level.name : Level → String
  | .debug => "DEBUG"
  | .info => "INFO"
  | .warn => "WARN"
  | .error => "ERROR"

/-- How much a level matters; a filter lets through what matters at least as much as it asks. -/
def Level.weight : Level → Nat
  | .debug => 0
  | .info => 1
  | .warn => 2
  | .error => 3

/-- One thing that happened. -/
inductive Event where
  /-- A block of a bundle was passed over. -/
  | skippedBlock (path : String)
  /-- A bundle was read to its end. -/
  | rootsLoaded (added : Nat) (path : String) (ignored : Nat)
  /-- A chain other than the one before was installed. -/
  | loadedCertificate (leaf : Option X509.Description)
  /-- The same chain was installed again. -/
  | certificateUnchanged
  /-- A scheduled reload begins. -/
  | checking
  /-- A scheduled reload failed. -/
  | reloadFailed (cause : LoadError)
  /-- The schedule ended. -/
  | refreshStopped
  /-- A server asked for a certificate and there is none. -/
  | noClientIdentity
  /-- A client connected and there is no certificate to present. -/
  | noServerIdentity
  /-- Metrics were asked for while the leaf cannot be described. -/
  | undescribedLeaf
  /-- The greeter accepts connections. -/
  | listening (address : String)
  /-- An interrupt was received. -/
  | shuttingDown
  /-- The run ended with a failure. -/
  | fatal (message : String) (causes : List String)
deriving DecidableEq, Repr

namespace Event

def level : Event → Level
  | .skippedBlock _ | .rootsLoaded _ _ _ | .certificateUnchanged | .checking | .refreshStopped =>
    .debug
  | .loadedCertificate _ | .listening _ | .shuttingDown => .info
  | .noClientIdentity | .noServerIdentity => .warn
  | .reloadFailed _ | .undescribedLeaf | .fatal _ _ => .error

/-- The text of an event. -/
def text : Event → String
  | .skippedBlock p => "Skipping malformed PEM block in " ++ p
  | .rootsLoaded added p ignored =>
    "Loaded " ++ String.ofList (Text.Decimal.write added) ++ " root certificate(s) from " ++ p
      ++ ", ignored " ++ String.ofList (Text.Decimal.write ignored)
  | .loadedCertificate (some d) => "Loaded certificate: " ++ d.write
  | .loadedCertificate none => "Loaded certificate (unparsable for display"
  | .certificateUnchanged => "Certificate unchanged"
  | .checking => "Checking for new certificate..."
  | .reloadFailed e =>
    "Error loading certificate and key, keeping the current one: "
      ++ reportLine e.message e.loggedCauses
  | .refreshStopped => "Certificate refresh stopped"
  | .noClientIdentity => "Client certificate requested but no identity is loaded"
  | .noServerIdentity => "Rejecting handshake: no identity is loaded"
  | .undescribedLeaf => "Failed to parse the current certificate"
  | .listening a => "Listening on " ++ a
  | .shuttingDown => "Shutting down"
  | .fatal m cs => reportLine m cs

/-- Level and text. -/
def line (e : Event) : String :=
  e.level.name ++ " " ++ e.text

/-- The part of the program that an event comes from, as a log names it. -/
def source : Event → String
  | .skippedBlock _ | .rootsLoaded _ _ _ => "hello_mtls::types::trust_pool"
  | .loadedCertificate _ | .certificateUnchanged | .noClientIdentity | .noServerIdentity =>
    "hello_mtls::credential_store"
  | .checking | .reloadFailed _ | .refreshStopped => "hello_mtls::components::refresh_scheduler"
  | .undescribedLeaf => "hello_mtls::components::metrics_exporter"
  | .listening _ => "hello_mtls::components::greeter"
  | .shuttingDown | .fatal _ _ => "hello_mtls"

/-- Level, flush right in five columns, source and text. -/
def logLine (e : Event) : String :=
  let level := e.level.name
  String.ofList (List.replicate (5 - level.length) ' ') ++ level ++ " " ++ e.source ++ ": "
    ++ e.text

end Event
end CertRotation
