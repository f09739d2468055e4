/-
What can be wrong with a certificate or with a path of certificates.

Several candidate paths may fail for different reasons.  `rank` orders the
reasons by how much they tell, so that the verdict on a chain is the most
specific reason met, whatever the order in which candidates were tried.
-/
namespace CertRotation.X509

/-- A reason to refuse a certificate or a path. -/
inductive Fault where
  | badDer
  | badDerTime
  | caUsedAsEndEntity
  | certExpired
  | certNotValidForName
  | certNotValidYet
  | endEntityUsedAsCa
  | extensionValueInvalid
  | invalidCertValidity
  | invalidNetworkMaskConstraint
  | invalidSignature
  | malformedDnsIdentifier
  | malformedExtensions
  | malformedNameConstraint
  | maximumNameConstraintComparisons
  | maximumPathBuildCalls
  | maximumPathDepth
  | maximumSignatureChecks
  | nameConstraintViolation
  | pathLenConstraintViolated
  | requiredEkuNotFound
  | signatureAlgorithmMismatch
  | trailingData (within : String)
  | unknownIssuer
  | unsupportedCertVersion
  | unsupportedCriticalExtension
  | unsupportedSignatureAlgorithm
  | unsupportedSignatureAlgorithmForPublicKey
deriving DecidableEq, Repr

namespace Fault

/-- The text of a reason. -/
def message : Fault → String
  | .badDer => "BadDer"
  | .badDerTime => "BadDerTime"
  | .caUsedAsEndEntity => "CaUsedAsEndEntity"
  | .certExpired => "CertExpired"
  | .certNotValidForName => "CertNotValidForName"
  | .certNotValidYet => "CertNotValidYet"
  | .endEntityUsedAsCa => "EndEntityUsedAsCa"
  | .extensionValueInvalid => "ExtensionValueInvalid"
  | .invalidCertValidity => "InvalidCertValidity"
  | .invalidNetworkMaskConstraint => "InvalidNetworkMaskConstraint"
  | .invalidSignature => "InvalidSignatureForPublicKey"
  | .malformedDnsIdentifier => "MalformedDnsIdentifier"
  | .malformedExtensions => "MalformedExtensions"
  | .malformedNameConstraint => "MalformedNameConstraint"
  | .maximumNameConstraintComparisons => "MaximumNameConstraintComparisonsExceeded"
  | .maximumPathBuildCalls => "MaximumPathBuildCallsExceeded"
  | .maximumPathDepth => "MaximumPathDepthExceeded"
  | .maximumSignatureChecks => "MaximumSignatureChecksExceeded"
  | .nameConstraintViolation => "NameConstraintViolation"
  | .pathLenConstraintViolated => "PathLenConstraintViolated"
  | .requiredEkuNotFound => "RequiredEkuNotFound"
  | .signatureAlgorithmMismatch => "SignatureAlgorithmMismatch"
  | .trailingData w => "TrailingData(" ++ w ++ ")"
  | .unknownIssuer => "UnknownIssuer"
  | .unsupportedCertVersion => "UnsupportedCertVersion"
  | .unsupportedCriticalExtension => "UnsupportedCriticalExtension"
  | .unsupportedSignatureAlgorithm => "UnsupportedSignatureAlgorithm"
  | .unsupportedSignatureAlgorithmForPublicKey => "UnsupportedSignatureAlgorithmForPublicKey"

/-- How specific a reason is; the higher rank wins among candidates. -/
def rank : Fault → Nat
  | .certNotValidYet | .certExpired => 290
  | .certNotValidForName => 280
  | .invalidSignature => 260
  | .signatureAlgorithmMismatch => 250
  | .requiredEkuNotFound => 240
  | .nameConstraintViolation => 230
  | .pathLenConstraintViolated => 220
  | .caUsedAsEndEntity | .endEntityUsedAsCa => 210
  | .invalidCertValidity => 190
  | .invalidNetworkMaskConstraint => 180
  | .unsupportedSignatureAlgorithmForPublicKey => 150
  | .unsupportedSignatureAlgorithm => 140
  | .unsupportedCriticalExtension | .unsupportedCertVersion => 130
  | .maximumPathDepth => 61
  | .malformedDnsIdentifier => 60
  | .malformedNameConstraint => 50
  | .malformedExtensions | .trailingData _ => 40
  | .extensionValueInvalid => 30
  | .badDerTime => 20
  | .badDer => 10
  | .maximumSignatureChecks | .maximumPathBuildCalls | .maximumNameConstraintComparisons
  | .unknownIssuer => 0

/-- The more specific of two reasons; of two alike the earlier one. -/
def moreSpecific (old new : Fault) : Fault :=
  if new.rank ≤ old.rank then old else new

/-- Whether a reason ends the search for a path at once. -/
def isFatal : Fault → Bool
  | .maximumSignatureChecks | .maximumPathBuildCalls | .maximumNameConstraintComparisons => true
  | _ => false

end Fault
end CertRotation.X509
