import ChainOfTrust.Der.Value
import ChainOfTrust.ServerAuth.Presented
import ChainOfTrust.Signature.Algorithm

/-!
# Signature rules

A `SignatureRule` says which octets of an algorithm identifier, with which octets of a key's
identifier, stand for a scheme. Identifiers match exactly, parameters and all.

- `SignatureRule.all`: the rules for certificates;
- `verifySigned`: a signature under the rules that its identifier names.
-/

namespace ChainOfTrust.ServerAuth

set_option autoImplicit false

structure SignatureRule where
  keyIdentifier : Bytes
  identifier : Bytes
  scheme : Scheme

namespace SignatureRule

/-! ## Identifiers -/

def oidOctets (o : Oid) : Bytes := Der.Element.encode ⟨Der.Tag.oid, o.content⟩

def null : Bytes := [0x05, 0x00]

def sequence (content : Bytes) : Bytes := Der.Element.encode ⟨Der.Tag.sequence, content⟩

def explicitField (number : UInt8) (content : Bytes) : Bytes :=
  Der.Element.encode ⟨0xA0 + number, content⟩

def mgf1 : Oid := .ofArcs [1, 2, 840, 113549, 1, 1, 8]

/-- The identifier of a hash without its header, with a null as parameters. -/
def hashIdentifier : HashAlgorithm → Bytes
  | .sha1 => oidOctets (.ofArcs [1, 3, 14, 3, 2, 26]) ++ null
  | .sha256 => oidOctets .sha256 ++ null
  | .sha384 => oidOctets .sha384 ++ null
  | .sha512 => oidOctets .sha512 ++ null

def curveIdentifier : CurveName → Bytes
  | .p256 => oidOctets .ecPublicKey ++ oidOctets .secp256r1
  | .p384 => oidOctets .ecPublicKey ++ oidOctets .secp384r1

/-- RSASSA-PSS with one hash throughout and a salt as long as its digest. -/
def pssIdentifier (hash : HashAlgorithm) : Bytes :=
  let h := sequence (hashIdentifier hash)
  oidOctets .rsaPss ++ sequence (explicitField 0 h ++
    explicitField 1 (sequence (oidOctets mgf1 ++ h)) ++
    explicitField 2 [Der.Tag.integer, 0x01, UInt8.ofNat hash.size])

/-! ## Rules -/

def ecdsa (curve : CurveName) (hash : HashAlgorithm) (oid : Oid) : SignatureRule :=
  ⟨curveIdentifier curve, oidOctets oid, .ecdsa curve hash⟩

def pss (hash : HashAlgorithm) : SignatureRule :=
  ⟨oidOctets .rsaEncryption ++ null, pssIdentifier hash, .rsaPss hash⟩

def pkcs1 (hash : HashAlgorithm) (oid : Oid) (parameters : Bytes) : SignatureRule :=
  ⟨oidOctets .rsaEncryption ++ null, oidOctets oid ++ parameters, .rsaPkcs1 hash⟩

def ed25519 : SignatureRule := ⟨oidOctets .ed25519, oidOctets .ed25519, .ed25519⟩

def all : List SignatureRule := [
  ecdsa .p256 .sha256 .ecdsaWithSha256, ecdsa .p256 .sha384 .ecdsaWithSha384,
  ecdsa .p384 .sha256 .ecdsaWithSha256, ecdsa .p384 .sha384 .ecdsaWithSha384,
  ed25519,
  pss .sha256, pss .sha384, pss .sha512,
  pkcs1 .sha256 .sha256WithRsa null, pkcs1 .sha384 .sha384WithRsa null,
  pkcs1 .sha512 .sha512WithRsa null,
  pkcs1 .sha256 .sha256WithRsa [], pkcs1 .sha384 .sha384WithRsa [],
  pkcs1 .sha512 .sha512WithRsa []]

end SignatureRule

/-! ## Verifying -/

/-- The identifier and the octets of a public key. -/
def publicKeyParts : Reader (Bytes × Bytes) := do
  let identifier ← Reader.expect Der.Tag.sequence
  let key ← Reader.bits
  return (identifier, key)

/-- Why a signature does not hold by a rule. -/
def verifyBy (p : Provider) (rule : SignatureRule) (publicKey message signature : Bytes) :
    Except PathFault Unit := do
  let (identifier, key) ← Reader.all .trailingData publicKeyParts publicKey
  if identifier ≠ rule.keyIdentifier then throw .unsupportedAlgorithmForKey
  if p.verifies rule.scheme key message signature then return () else throw .badSignature

/-- The first of the rules that fits the key decides; `otherwise` is the fault if none does. -/
def verifyByFirst (p : Provider) (publicKey message signature : Bytes) (otherwise : PathFault) :
    List SignatureRule → Except PathFault Unit
  | [] => .error otherwise
  | rule :: rules =>
    match verifyBy p rule publicKey message signature with
    | .error .unsupportedAlgorithmForKey =>
      verifyByFirst p publicKey message signature .unsupportedAlgorithmForKey rules
    | r => r

/-- Why the signature of `c` does not hold under a key. -/
def verifySigned (p : Provider) (publicKey : Bytes) (c : Presented) : Except PathFault Unit :=
  verifyByFirst p publicKey c.signed c.signature .unsupportedAlgorithm
    (SignatureRule.all.filter fun rule => rule.identifier = c.algorithm)

end ChainOfTrust.ServerAuth
