import ChainOfTrust.ServerAuth.Presented

/-!
# Roots

A `Root` is what a trust anchor counts with: its name, its key and the names that it is good for.
Neither its period nor its signature matters, and it may be of version 1.
-/

namespace ChainOfTrust.ServerAuth

set_option autoImplicit false

structure Root where
  subject : Bytes
  publicKey : Bytes
  nameConstraints : Option Bytes
  deriving DecidableEq

namespace Root

/-- A certificate without a version and without extensions. -/
def firstVersion : Reader Root :=
  Reader.nested Der.Tag.sequence .badDer do
    let root ← Reader.nested Der.Tag.sequence .badDer do
      let _serial ← Reader.expect Der.Tag.integer
      let _algorithm ← Reader.expect Der.Tag.sequence
      let _issuer ← Reader.expect Der.Tag.sequence
      let _validity ← Reader.expect Der.Tag.sequence
      let subject ← Reader.expect Der.Tag.sequence
      let publicKey ← Reader.expect Der.Tag.sequence
      return { subject, publicKey, nameConstraints := none }
    let _algorithm ← Reader.expect Der.Tag.sequence
    let _signature ← Reader.expect Der.Tag.bitString
    return root

def ofDer (der : Bytes) : Except PathFault Root :=
  match Presented.ofAnchor der with
  | .ok c => .ok ⟨c.subject, c.publicKey, c.extension? ServerAuth.nameConstraints⟩
  | .error .unsupportedVersion => Reader.all .badDer firstVersion der
  | .error fault => .error fault

end Root

end ChainOfTrust.ServerAuth
