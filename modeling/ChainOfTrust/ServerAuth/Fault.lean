/-!
# Faults of server authentication

- `PathFault`: why no path from a server's certificate to a root holds. A search that fails in many
  ways reports the most specific of them;
- `ChannelError`: what a caller gets to see of it.
-/

namespace ChainOfTrust.ServerAuth

set_option autoImplicit false

inductive PathFault where
  | badDer
  | badTime
  | trailingData
  | unsupportedVersion
  /-- The algorithm inside the signed part is another than the one outside. -/
  | algorithmMismatch
  | repeatedExtension
  | unsupportedCriticalExtension
  /-- A period that ends before it begins. -/
  | invalidPeriod
  | notYetValid
  | expired
  | authorityAsServer
  | serverAsAuthority
  | pathLength
  /-- The certificate is for other purposes. -/
  | purpose
  /-- The certificate lists its purposes and has none. -/
  | noPurpose
  /-- The private part of the key can be guessed. -/
  | guessableKey
  | unknownIssuer
  | badSignature
  | unsupportedAlgorithm
  | unsupportedAlgorithmForKey
  | tooDeep
  | nameConstraint
  | malformedConstraint
  | malformedMask
  | malformedHostName
  | notValidForName
  | tooManySignatures
  | tooManyPaths
  | tooManyComparisons
  deriving DecidableEq

namespace PathFault

/-- How specific a fault is. -/
def rank : PathFault → Nat
  | notYetValid | expired => 290
  | notValidForName => 280
  | badSignature => 260
  | algorithmMismatch => 250
  | noPurpose => 245
  | purpose => 240
  | nameConstraint => 230
  | pathLength => 220
  | authorityAsServer | serverAsAuthority => 210
  | guessableKey => 200
  | invalidPeriod => 190
  | malformedMask => 180
  | unsupportedAlgorithmForKey => 150
  | unsupportedAlgorithm => 140
  | unsupportedCriticalExtension | unsupportedVersion => 130
  | tooDeep => 61
  | malformedHostName => 60
  | malformedConstraint => 50
  | trailingData => 40
  | repeatedExtension => 30
  | badTime => 20
  | badDer => 10
  | unknownIssuer | tooManySignatures | tooManyPaths | tooManyComparisons => 0

/-- The more specific of two faults, the first if they are equally so. -/
def moreSpecific (a b : PathFault) : PathFault := if b.rank ≤ a.rank then a else b

/-- The fault ends the whole search. -/
def isFatal : PathFault → Bool
  | tooManySignatures | tooManyPaths | tooManyComparisons => true
  | _ => false

end PathFault

/-! ## Errors of the channel -/

/-- What is wrong with a server's certificate. -/
inductive CertificateReason where
  | badEncoding
  | expired
  | notValidYet
  | unknownIssuer
  | notValidForName
  | badSignature
  | unsupportedSignatureAlgorithm
  | unsupportedSignatureAlgorithmForPublicKey
  | invalidPurpose
  | other
  deriving DecidableEq

def CertificateReason.name : CertificateReason → String
  | badEncoding => "BadEncoding"
  | expired => "Expired"
  | notValidYet => "NotValidYet"
  | unknownIssuer => "UnknownIssuer"
  | notValidForName => "NotValidForName"
  | badSignature => "BadSignature"
  | unsupportedSignatureAlgorithm => "UnsupportedSignatureAlgorithm"
  | unsupportedSignatureAlgorithmForPublicKey => "UnsupportedSignatureAlgorithmForPublicKey"
  | invalidPurpose => "InvalidPurpose"
  | other => "Other"

inductive ChannelError where
  | general (text : String)
  | invalidCertificate (reason : CertificateReason)
  /-- The peer uses a signature scheme that was not offered to it. -/
  | peerMisbehaved
  deriving DecidableEq

def PathFault.reason : PathFault → CertificateReason
  | badDer | badTime | trailingData => .badEncoding
  | expired | invalidPeriod => .expired
  | notYetValid => .notValidYet
  | unknownIssuer => .unknownIssuer
  | notValidForName => .notValidForName
  | badSignature => .badSignature
  | unsupportedAlgorithm => .unsupportedSignatureAlgorithm
  | unsupportedAlgorithmForKey => .unsupportedSignatureAlgorithmForPublicKey
  | purpose => .invalidPurpose
  | _ => .other

def PathFault.error (f : PathFault) : ChannelError := .invalidCertificate f.reason

end ChainOfTrust.ServerAuth
