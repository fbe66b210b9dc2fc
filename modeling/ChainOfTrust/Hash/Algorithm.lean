import ChainOfTrust.Hash.Sha1
import ChainOfTrust.Hash.Sha256
import ChainOfTrust.Hash.Sha512

/-!
# Hash algorithms

The hash functions that signatures are made with, as values.
-/

namespace ChainOfTrust

set_option autoImplicit false

inductive HashAlgorithm where
  | sha1
  | sha256
  | sha384
  | sha512
  deriving DecidableEq

namespace HashAlgorithm

def digest : HashAlgorithm → Bytes → Bytes
  | .sha1 => Hash.Sha1.digest
  | .sha256 => Hash.Sha256.digest
  | .sha384 => Hash.Sha512.digest384
  | .sha512 => Hash.Sha512.digest

/-- The octets of a digest. -/
def size : HashAlgorithm → Nat
  | .sha1 => 20
  | .sha256 => 32
  | .sha384 => 48
  | .sha512 => 64

end HashAlgorithm

end ChainOfTrust
