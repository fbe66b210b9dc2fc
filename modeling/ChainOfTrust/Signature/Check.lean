import ChainOfTrust.Certificate
import ChainOfTrust.Signature.Algorithm

/-!
# Checking a certificate's signature

`checkSignature` has three outcomes that mean different things: an error aborts the validation, a
`HopFailure` turns this key down, and `none` says that the signature verifies.
-/

namespace ChainOfTrust

set_option autoImplicit false

/-- Why the signature of `c` does not verify under `key`, or `none` if it does. -/
def checkSignature (p : Provider) (c : Certificate) (key : X509.PublicKey) :
    Except TrustError (Option HopFailure) := do
  let algorithm ← SignatureAlgorithm.ofIdentifier c.signatureAlgorithm
  match ← algorithm.schemeFor key with
  | none => .ok (some (.incompatibleKey algorithm.name))
  | some scheme =>
    .ok (if p.verifies scheme key.key.octets c.tbs c.signature then none
      else some .signatureMismatch)

end ChainOfTrust
