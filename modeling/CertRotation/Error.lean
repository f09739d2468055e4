/-
Everything that can go wrong, as causes, and its wording.

A `LoadError` is a failure to turn files into certificates and keys; a
`Failure` is what the program reports.  Both have one message of their own and
a list of the messages of their causes; `line` joins all of them.
-/
import CertRotation.Tls.Alert

namespace CertRotation

/-- What the operating system, or a stream over it, answers when it fails. -/
inductive IoError where
  | notFound
  | permissionDenied
  | isDirectory
  | notDirectory
  | nameTooLong
  | nulInPath
  | addressInUse
  | addressNotAvailable
  | networkUnreachable
  | connectionRefused
  | unresolved (reason : String)
  | unexpectedEof (text : String)
  | invalidData (text : String)
  | absent (text : String)
deriving DecidableEq, Repr

/-- The text of an operating system failure. -/
def IoError.message : IoError → String
  | .notFound => "No such file or directory (os error 2)"
  | .permissionDenied => "Permission denied (os error 13)"
  | .isDirectory => "Is a directory (os error 21)"
  | .notDirectory => "Not a directory (os error 20)"
  | .nameTooLong => "File name too long (os error 36)"
  | .nulInPath => "file name contained an unexpected NUL byte"
  | .addressInUse => "Address already in use (os error 98)"
  | .addressNotAvailable => "Cannot assign requested address (os error 99)"
  | .networkUnreachable => "Network is unreachable (os error 101)"
  | .connectionRefused => "Connection refused (os error 111)"
  | .unresolved t => "failed to lookup address information: " ++ t
  | .unexpectedEof t => t
  | .invalidData t => t
  | .absent t => t

/-- Failure to turn files into certificates, roots or keys. -/
inductive LoadError where
  | read (path : String) (cause : IoError)
  | missingOrInvalidRoot (path : String) (cause : Option IoError)
  | malformedPem (path : String) (cause : String)
  | missingCertificate (path : String)
  | missingPrivateKey (path : String)
  | unsupportedKey (cause : Tls.Failure)
  | invalidCertificate (cause : X509.Fault)
  | keyMismatch
deriving DecidableEq, Repr

namespace LoadError

/-- The message of a load error itself. -/
def message : LoadError → String
  | .read p _ => "failed to read " ++ p
  | .missingOrInvalidRoot p _ => "missing or invalid root certificate in " ++ p
  | .malformedPem p _ => "malformed PEM data in " ++ p
  | .missingCertificate p => "no certificate found in " ++ p
  | .missingPrivateKey p => "no private key found in " ++ p
  | .unsupportedKey _ => "unsupported private key"
  | .invalidCertificate _ => "invalid certificate"
  | .keyMismatch => "private key does not match the certificate"

/-- The messages of its causes, outermost first. -/
def causes : LoadError → List String
  | .read _ c => [c.message]
  | .missingOrInvalidRoot _ c => (c.map (·.message)).toList
  | .malformedPem _ c => [c]
  | .unsupportedKey c => [c.message]
  | .invalidCertificate c => [c.message]
  | .missingCertificate _ | .missingPrivateKey _ | .keyMismatch => []

/-- The failure is about the trusted roots and not about an identity. -/
def concernsRoots : LoadError → Bool
  | .missingOrInvalidRoot _ _ => true
  | _ => false

/-- The causes that a log line spells out: those that speak of files, and not
those that speak of what a file holds. -/
def loggedCauses (e : LoadError) : List String :=
  match e with
  | .malformedPem _ _ | .unsupportedKey _ | .invalidCertificate _ => []
  | _ => e.causes

end LoadError

/-- Why the settings were refused. -/
inductive SettingsError where
  | fileParse
  | wrongType (key : Option String)
  | message (text : String)
  | notPositive (key : String)
deriving DecidableEq, Repr

/-- The text of a refusal of the settings. -/
def SettingsError.text : SettingsError → String
  | .fileParse => "the file does not parse"
  | .wrongType none => "invalid type"
  | .wrongType (some k) => "invalid type for key " ++ k
  | .message t => t
  | .notPositive k => k ++ " must be greater than zero"

/-- What the program reports. -/
inductive Failure where
  | settings (cause : SettingsError)
  | io (cause : IoError)
  | trustLoad (cause : LoadError)
  | identityLoad (cause : LoadError)
  | tls (cause : Tls.Failure)
  | verifierWithoutRoots
  | handshake (cause : String)
  | timeout
  | invalidTarget
deriving DecidableEq, Repr

namespace Failure

/-- The message of a failure itself. -/
def message : Failure → String
  | .settings _ => "failed to load the configuration"
  | .io _ => "IO error"
  | .trustLoad _ => "failed to load the trusted roots"
  | .identityLoad _ => "failed to load the certificate and key"
  | .tls _ => "TLS configuration error"
  | .verifierWithoutRoots => "failed to build the client certificate verifier"
  | .handshake _ => "TLS handshake failed"
  | .timeout => "timed out"
  | .invalidTarget => "Invalid target"

/-- The messages of its causes, outermost first. -/
def causes : Failure → List String
  | .settings c => [c.text]
  | .io c => [c.message]
  | .trustLoad c => c.message :: c.causes
  | .identityLoad c => c.message :: c.causes
  | .tls c => [c.message]
  | .verifierWithoutRoots => ["no root trust anchors were provided"]
  | .handshake c => [c]
  | .timeout | .invalidTarget => []

end Failure

/-- The causes that a log line spells out. -/
def Failure.loggedCauses : Failure → List String
  | .trustLoad c | .identityLoad c => c.message :: c.loggedCauses
  | f => f.causes

/-- A message and its causes on one line. -/
def reportLine (message : String) (causes : List String) : String :=
  String.intercalate ": " (message :: causes)

end CertRotation
