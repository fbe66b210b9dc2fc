import ChainOfTrust.Logged
import ChainOfTrust.Signature.Check

/-!
# Self-signed certificates

A certificate is self-signed when its signature verifies under its own key. A key that does not fit
its signature algorithm means that it is not, and an algorithm that is not supported is an error.
-/

namespace ChainOfTrust.Chain

set_option autoImplicit false

def isSelfSigned (p : Provider) (c : Certificate) : Logged Bool := do
  match ← checkSignature p c c.publicKey with
  | none => return true
  | some reason =>
    Logged.emit (.notSelfSigned c reason)
    return false

end ChainOfTrust.Chain
