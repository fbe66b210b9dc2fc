import ChainOfTrust.FileFault
import ChainOfTrust.Pem.Fault

/-!
# Errors

Two families that are never mixed up:

- `TrustError` aborts a validation and is never a verdict. Each kind carries its cause, down to the
  octets that a decoder refused, and `TrustError.message` words both;
- `HopFailure` is the reason why one candidate issuer was turned down; the search goes on.
-/

namespace ChainOfTrust

set_option autoImplicit false

/-! ## Causes -/

inductive CertificateFault where
  /-- The octets are not a certificate. -/
  | undecodable (octets : Bytes)
  /-- The octets do not begin with a header that is asked for. -/
  | der (octets : Bytes := [])
  | truncated
  /-- The signed part would end after the octets do. -/
  | overlong
  | pem (fault : PemFault)
  | pemLabel (found : String)
  /-- The content of RSASSA-PSS parameters does not begin with a hash that can be read. -/
  | pssHash (content : Bytes)
  | other (text : String)
  deriving DecidableEq

inductive AlgorithmFault where
  | unknown (oid : String)
  | pssDefaults
  | pssDefaultHash
  | pssHash (oid : String)
  | curve (algorithm oid : String)
  | other (text : String)
  deriving DecidableEq

inductive ProviderFault where
  /-- There is no root to verify against. -/
  | noRoots
  /-- The secure channel reports an error of no particular kind. -/
  | channel (text : String)
  | other (text : String)
  deriving DecidableEq

inductive StoreFault where
  | unreadable (path : String) (fault : FileFault)
  | unlistable (path : String) (fault : FileFault)
  | block (path : String) (fault : PemFault)
  | certificate (path : String) (fault : CertificateFault)
  | pem (fault : PemFault)
  | other (text : String)
  deriving DecidableEq

inductive ConfigFault where
  /-- The document is not one of a configuration. -/
  | malformed (document : String)
  | emptyPath
  | noGlobalAnchors
  | other (text : String)
  deriving DecidableEq

inductive TrustError where
  | certificateParsing (fault : CertificateFault)
  | unsupportedAlgorithm (fault : AlgorithmFault)
  | provider (fault : ProviderFault)
  | trustStore (fault : StoreFault)
  | configuration (fault : ConfigFault)
  | alreadyInitialized
  | inputOutput (fault : FileFault)
  deriving DecidableEq

/-! ## Wording -/

def CertificateFault.message (fault : CertificateFault) (w : Wording := {}) : String :=
  match fault with
  | .undecodable octets => becauseOf "Failed to parse DER certificate" (w.certificate octets)
  | .der octets => becauseOf "DER decoding failed" (w.header octets)
  | .truncated => "Truncated certificate"
  | .overlong => "tbsCertificate extends past the end of the certificate"
  | .pem fault => "Failed to parse PEM certificate: " ++ fault.message w
  | .pemLabel found => "Expected PEM tag CERTIFICATE, found " ++ found
  | .pssHash content => becauseOf "Invalid RSASSA-PSS hash algorithm" (w.pssHash content)
  | .other text => text

def AlgorithmFault.message : AlgorithmFault → String
  | .unknown oid => "OID " ++ oid
  | .pssDefaults => "RSASSA-PSS with default SHA-1 parameters"
  | .pssDefaultHash => "RSASSA-PSS with default SHA-1 hash"
  | .pssHash oid => "RSASSA-PSS with hash " ++ oid
  | .curve algorithm oid => algorithm ++ " on curve " ++ oid
  | .other text => text

def ProviderFault.message : ProviderFault → String
  | .noRoots => "Failed to create webpki verifier: no root trust anchors were provided"
  | .channel text => "unexpected error: " ++ text
  | .other text => text

def ConfigFault.message (fault : ConfigFault) (w : Wording := {}) : String :=
  match fault with
  | .malformed document => w.document document
  | .emptyPath => "trust_store.path must not be empty"
  | .noGlobalAnchors => "global trust anchors are not installed"
  | .other text => text

/-- What stands in front of the cause of an undecodable certificate. -/
def certificateHeading : String := "Certificate parsing failed: "

def StoreFault.message (fault : StoreFault) (w : Wording := {}) : String :=
  match fault with
  | .unreadable path fault => "cannot read " ++ path ++ ": " ++ fault.message
  | .unlistable path fault => "cannot list " ++ path ++ ": " ++ fault.message
  | .block path fault => path ++ ": " ++ fault.message w
  | .certificate path fault => path ++ ": " ++ certificateHeading ++ fault.message w
  | .pem fault => "PEM decoding failed: " ++ fault.message w
  | .other text => text

namespace TrustError

def message (e : TrustError) (w : Wording := {}) : String :=
  match e with
  | .certificateParsing fault => certificateHeading ++ fault.message w
  | .unsupportedAlgorithm fault => "Unsupported signature algorithm: " ++ fault.message
  | .provider fault => "Cryptographic provider failure: " ++ fault.message
  | .trustStore fault => "Trust store unavailable: " ++ fault.message w
  | .configuration fault => "Invalid configuration: " ++ fault.message w
  | .alreadyInitialized => "Trust anchors are already initialized"
  | .inputOutput fault => "IO error: " ++ fault.message

/-- Caused by the surroundings and not by the input that was presented. -/
def isConfigurationError : TrustError → Bool
  | .certificateParsing _ => false
  | _ => true

end TrustError

/-! ## Hops -/

inductive HopFailure where
  | signatureMismatch
  | incompatibleKey (algorithm : String)
  | notYetValid
  | expired
  | unrecognizedCriticalExtension (oid : String)
  deriving DecidableEq

namespace HopFailure

def message : HopFailure → String
  | .signatureMismatch => "signature does not verify under the issuer key"
  | .incompatibleKey algorithm => "issuer key is not usable with signature algorithm " ++ algorithm
  | .notYetValid => "certificate is not yet valid"
  | .expired => "certificate has expired"
  | .unrecognizedCriticalExtension oid => "unrecognized critical extension " ++ oid

/-- What the reason names, if it names anything. -/
def detail? : HopFailure → Option String
  | .incompatibleKey algorithm => some algorithm
  | .unrecognizedCriticalExtension oid => some oid
  | _ => none

end HopFailure

end ChainOfTrust
