/-
Failures of a handshake and the alerts that announce them.

The side that detects a fault reports the fault itself; its peer only learns
the alert.  `Failure.alert` is that correspondence, and it is all that passes
from one side's error to the other's.
-/
import CertRotation.X509.Fault

namespace CertRotation.Tls

/-- The alerts that a failed handshake can send. -/
inductive Alert where
  | accessDenied
  | badCertificate
  | certificateExpired
  | certificateRequired
  | certificateUnknown
  | decryptError
  | handshakeFailure
  | protocolVersion
  | unknownCA
deriving DecidableEq, Repr

/-- The name of an alert. -/
def Alert.name : Alert → String
  | .accessDenied => "AccessDenied"
  | .badCertificate => "BadCertificate"
  | .certificateExpired => "CertificateExpired"
  | .certificateRequired => "CertificateRequired"
  | .certificateUnknown => "CertificateUnknown"
  | .decryptError => "DecryptError"
  | .handshakeFailure => "HandshakeFailure"
  | .protocolVersion => "ProtocolVersion"
  | .unknownCA => "UnknownCA"

/-- What a verifier says about a peer's certificate. -/
inductive CertificateFault where
  | badEncoding
  | expired
  | notValidYet
  | unknownIssuer
  | notValidForName
  | badSignature
  | other (fault : X509.Fault)
deriving DecidableEq, Repr

namespace CertificateFault

/-- The verdict that a reason of path validation amounts to. -/
def ofFault : X509.Fault → CertificateFault
  | .badDer | .badDerTime | .trailingData _ => .badEncoding
  | .certNotValidYet => .notValidYet
  | .certExpired | .invalidCertValidity => .expired
  | .unknownIssuer => .unknownIssuer
  | .certNotValidForName => .notValidForName
  | .invalidSignature | .unsupportedSignatureAlgorithm
  | .unsupportedSignatureAlgorithmForPublicKey => .badSignature
  | f => .other f

/-- The text of a verdict. -/
def message : CertificateFault → String
  | .badEncoding => "BadEncoding"
  | .expired => "Expired"
  | .notValidYet => "NotValidYet"
  | .unknownIssuer => "UnknownIssuer"
  | .notValidForName => "NotValidForName"
  | .badSignature => "BadSignature"
  | .other f => "Other(OtherError(" ++ f.message ++ "))"

/-- The alert that announces a verdict. -/
def alert : CertificateFault → Alert
  | .badEncoding | .notValidForName => .badCertificate
  | .expired | .notValidYet => .certificateExpired
  | .unknownIssuer => .unknownCA
  | .badSignature => .decryptError
  | .other _ => .certificateUnknown

end CertificateFault

/-- What two configurations fail to share. -/
inductive Mismatch where
  | noCipherSuites
  | noGroups
  | noVersion
deriving DecidableEq, Repr

/-- The name of a mismatch. -/
def Mismatch.name : Mismatch → String
  | .noCipherSuites => "NoCipherSuitesInCommon"
  | .noGroups => "NoKxGroupsInCommon"
  | .noVersion => "ServerDoesNotSupportTls12Or13"

/-- Why one side of a handshake did not finish. -/
inductive Failure where
  | invalidCertificate (fault : CertificateFault)
  | noCertificatesPresented
  | incompatible (mismatch : Mismatch)
  | alertReceived (alert : Alert)
  | general (text : String)
deriving DecidableEq, Repr

namespace Failure

/-- The text of a failure. -/
def message : Failure → String
  | .invalidCertificate f => "invalid peer certificate: " ++ f.message
  | .noCertificatesPresented => "peer sent no certificates"
  | .incompatible m => "peer is incompatible: " ++ m.name
  | .alertReceived a => "received fatal alert: " ++ a.name
  | .general t => "unexpected error: " ++ t

/-- A server that holds no identity gives up on a client. -/
def noChain : Failure :=
  .general "no server certificate chain resolved"

end Failure
end CertRotation.Tls
