import ChainOfTrust.Der.Value

/-!
# Algorithm identifiers and public keys

An algorithm identifier is an object identifier with optional parameters, whose content is not
looked at here. A public key is a bit string under such an identifier.
-/

namespace ChainOfTrust.X509

set_option autoImplicit false

open Der (Element BitString)

structure AlgorithmIdentifier where
  oid : Oid
  parameters : Option Element
  deriving DecidableEq

def AlgorithmIdentifier.ofElement? (e : Element) : Option AlgorithmIdentifier := do
  match ← e.sequence? with
  | [oid] => some ⟨← oid.oid?, none⟩
  | [oid, parameters] => some ⟨← oid.oid?, some parameters⟩
  | _ => none

structure PublicKey where
  algorithm : AlgorithmIdentifier
  key : BitString
  deriving DecidableEq

def PublicKey.ofElement? (e : Element) : Option PublicKey := do
  match ← e.sequence? with
  | [algorithm, key] => some ⟨← AlgorithmIdentifier.ofElement? algorithm, ← key.bitString?⟩
  | _ => none

end ChainOfTrust.X509
