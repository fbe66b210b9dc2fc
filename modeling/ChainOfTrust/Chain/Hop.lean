import ChainOfTrust.Signature.Check

/-!
# One hop

`validateHop` says whether a candidate vouches for a certificate at an instant: its subject is the
certificate's issuer, the signature verifies under its key, the certificate is within its period,
and every critical extension of the certificate is one that is understood. The candidate is taken as
it is: its own period and extensions do not count.
-/

namespace ChainOfTrust

set_option autoImplicit false

/-- Nanoseconds since 1970 began. -/
abbrev Instant := Int

def Instant.ofSeconds (s : Int) : Instant := s * 1000000000

namespace Chain

/-! ## Extensions -/

/-- keyUsage, subjectAltName, basicConstraints, nameConstraints, certificatePolicies,
policyMappings, policyConstraints, extKeyUsage and inhibitAnyPolicy. -/
def recognizedExtensions : List Oid :=
  [15, 17, 19, 30, 32, 33, 36, 37, 54].map fun n => Oid.ofArcs [2, 5, 29, n]

/-- The first critical extension that is not recognized. -/
def unrecognizedExtension? (c : Certificate) : Option X509.Extension :=
  c.extensions.find? fun e => e.critical && !recognizedExtensions.contains e.oid

/-! ## Hops -/

inductive HopOutcome where
  /-- The candidate's subject is not the certificate's issuer. -/
  | noMatch
  | invalid (reason : HopFailure)
  | valid
  deriving DecidableEq

/-- The period and the extensions of a certificate whose signature verifies. -/
def standingAt (c : Certificate) (t : Instant) : HopOutcome :=
  if t < .ofSeconds c.validity.notBefore then .invalid .notYetValid
  else if .ofSeconds c.validity.notAfter < t then .invalid .expired
  else match unrecognizedExtension? c with
    | some e => .invalid (.unrecognizedCriticalExtension e.oid.text)
    | none => .valid

def validateHop (p : Provider) (t : Instant) (subject candidate : Certificate) :
    Except TrustError HopOutcome :=
  if !subject.issuer.agrees candidate.subject then .ok .noMatch
  else do
    match ← checkSignature p subject candidate.publicKey with
    | some reason => .ok (.invalid reason)
    | none => .ok (standingAt subject t)

end Chain

end ChainOfTrust
