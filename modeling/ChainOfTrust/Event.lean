import ChainOfTrust.Certificate
import ChainOfTrust.ServerAuth.Fault

/-!
# Events

What a validation, a store or a verifier reports while it works. An event keeps the values it is
about; `Event.level` and `Event.message` are what a log shows of it.
-/

namespace ChainOfTrust

set_option autoImplicit false

inductive Level where
  | trace
  | debug
  | info
  | warn
  | error
  deriving DecidableEq

def Level.name : Level → String
  | .trace => "trace"
  | .debug => "debug"
  | .info => "info"
  | .warn => "warn"
  | .error => "error"

inductive Event where
  | notSelfSigned (c : Certificate) (reason : HopFailure)
  | hopFailed (subject candidate : Certificate) (reason : HopFailure)
  | reachedRoot (root : Certificate)
  | climbed (subject issuer : Certificate)
  /-- The candidate was climbed through before. -/
  | issuerCycle (candidate : Certificate)
  | skippedEntry (path : String)
  | skippedBlock (label path : String)
  | emptyStore (origin : String)
  | loadedStore (count : Nat) (origin : String)
  | installed (count : Nat)
  | emptyChain (authType : String)
  | trusted (leaf : Certificate) (authType : String)
  | notTrusted (leaf : Certificate) (authType : String)
  | aborted (leaf : Certificate) (fault : TrustError)
  | loadingStore (path config : String)
  | anchorRefused (anchor : Certificate) (reason : ServerAuth.CertificateReason)
  | rootStore (count : Nat)
  | leafUndecodable (fault : CertificateFault)
  | intermediateUndecodable (fault : CertificateFault)
  | acceptedEarly (serverName : String)
  deriving DecidableEq

namespace Event

def level : Event → Level
  | notSelfSigned .. | hopFailed .. => .trace
  | reachedRoot .. | climbed .. | skippedEntry .. | skippedBlock .. | loadedStore ..
  | loadingStore .. | rootStore .. | intermediateUndecodable .. | acceptedEarly .. => .debug
  | installed .. | trusted .. | notTrusted .. => .info
  | issuerCycle .. | emptyStore .. | emptyChain .. | anchorRefused .. | leafUndecodable .. => .warn
  | aborted .. => .error

/-- The subject of a certificate in brackets. -/
def bracketed (c : Certificate) : String := "[" ++ c.subject.text ++ "]"

def message (e : Event) (w : Wording := {}) : String :=
  match e with
  | notSelfSigned c reason => bracketed c ++ " is not self-signed: " ++ reason.message
  | hopFailed subject candidate reason =>
    "validation of " ++ bracketed subject ++ " via " ++ bracketed candidate ++ " failed: " ++
      reason.message ++ ", checking next candidate"
  | reachedRoot root => "validating root " ++ bracketed root
  | climbed subject issuer => "validating " ++ bracketed subject ++ " via: " ++ bracketed issuer
  | issuerCycle candidate =>
    "issuer cycle: " ++ bracketed candidate ++ " (" ++ candidate.fingerprint.hex ++
      ") was already visited, giving up"
  | skippedEntry path => "skipping non-certificate entry " ++ path
  | skippedBlock label path => "skipping PEM block " ++ label ++ " in " ++ path
  | emptyStore origin => origin ++ " contains no certificates"
  | loadedStore count origin => "loaded " ++ toString count ++ " certificates from " ++ origin
  | installed count => "installed " ++ toString count ++ " global trust anchors"
  | emptyChain authType =>
    "empty certificate chain presented (auth type " ++ authType ++ ")"
  | trusted leaf authType =>
    "peer certificate " ++ bracketed leaf ++ " chains to a trusted root (auth type " ++ authType ++
      ")"
  | notTrusted leaf authType =>
    "peer certificate " ++ bracketed leaf ++ " does not chain to a trusted root (auth type " ++
      authType ++ ")"
  | aborted leaf fault =>
    "trust validation of " ++ bracketed leaf ++ " aborted: " ++ fault.message w
  | loadingStore path config => "loading trust store " ++ path ++ " from " ++ config
  | anchorRefused anchor reason =>
    "Failed to add trust anchor " ++ bracketed anchor ++ " to root store: invalid peer certificate: " ++
      reason.name
  | rootStore count => "root store holds " ++ toString count ++ " anchors"
  | leafUndecodable fault =>
    "skipping supplementary trust check: " ++ (TrustError.certificateParsing fault).message w
  | intermediateUndecodable fault =>
    "ignoring undecodable intermediate: " ++ (TrustError.certificateParsing fault).message w
  | acceptedEarly serverName => serverName ++ " accepted by supplementary trust check"

/-- A line of a log. -/
def line (e : Event) (w : Wording := {}) : String := e.level.name ++ ": " ++ e.message w

end Event

end ChainOfTrust
