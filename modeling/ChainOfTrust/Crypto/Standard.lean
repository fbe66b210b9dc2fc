import ChainOfTrust.Crypto.Ecdsa
import ChainOfTrust.Crypto.Ed25519
import ChainOfTrust.Crypto.Rsa

/-!
# The standard provider

Signatures checked by the algorithms of this library.
-/

namespace ChainOfTrust

set_option autoImplicit false

def Scheme.verifies : Scheme → (key message signature : Bytes) → Bool
  | .rsaPkcs1 hash => Crypto.Rsa.verifiesPkcs1 hash
  | .rsaPss hash => Crypto.Rsa.verifiesPss hash
  | .ecdsa curve hash => Crypto.Ecdsa.verifies curve hash
  | .ed25519 => Crypto.Ed25519.verifies

def Provider.standard : Provider := { verifies := Scheme.verifies }

end ChainOfTrust
