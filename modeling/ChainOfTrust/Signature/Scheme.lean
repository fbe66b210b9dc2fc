import ChainOfTrust.Hash.Algorithm
import ChainOfTrust.Wording

/-!
# Signature schemes

A scheme fixes how a signature is checked: the kind of key, its curve and the hash. A `Provider`
decides, for a scheme, whether a signature of a message verifies under the octets of a key; it also
brings the wording of the decoders.
-/

namespace ChainOfTrust

set_option autoImplicit false

inductive CurveName where
  | p256
  | p384
  deriving DecidableEq

inductive Scheme where
  | rsaPkcs1 (hash : HashAlgorithm)
  | rsaPss (hash : HashAlgorithm)
  | ecdsa (curve : CurveName) (hash : HashAlgorithm)
  | ed25519
  deriving DecidableEq

structure Provider where
  verifies : Scheme → (key message signature : Bytes) → Bool
  wording : Wording := {}

end ChainOfTrust
