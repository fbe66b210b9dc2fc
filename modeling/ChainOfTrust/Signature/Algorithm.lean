import ChainOfTrust.Error
import ChainOfTrust.Signature.Scheme
import ChainOfTrust.X509.AlgorithmIdentifier

/-!
# Signature algorithms of certificates

- `SignatureAlgorithm.ofIdentifier`: the algorithm that an identifier names. One that is not
  supported is an error, never a failed signature;
- `SignatureAlgorithm.schemeFor`: the scheme in which a given key carries the algorithm. A key of
  another kind has none, and a curve that is not supported is an error.
-/

namespace ChainOfTrust

set_option autoImplicit false

open X509 (AlgorithmIdentifier PublicKey)

/-! ## Identifiers -/

namespace Oid

def rsaEncryption : Oid := ofArcs [1, 2, 840, 113549, 1, 1, 1]
def sha1WithRsa : Oid := ofArcs [1, 2, 840, 113549, 1, 1, 5]
def rsaPss : Oid := ofArcs [1, 2, 840, 113549, 1, 1, 10]
def sha256WithRsa : Oid := ofArcs [1, 2, 840, 113549, 1, 1, 11]
def sha384WithRsa : Oid := ofArcs [1, 2, 840, 113549, 1, 1, 12]
def sha512WithRsa : Oid := ofArcs [1, 2, 840, 113549, 1, 1, 13]
def ecPublicKey : Oid := ofArcs [1, 2, 840, 10045, 2, 1]
def ecdsaWithSha256 : Oid := ofArcs [1, 2, 840, 10045, 4, 3, 2]
def ecdsaWithSha384 : Oid := ofArcs [1, 2, 840, 10045, 4, 3, 3]
def secp256r1 : Oid := ofArcs [1, 2, 840, 10045, 3, 1, 7]
def secp384r1 : Oid := ofArcs [1, 3, 132, 0, 34]
def ed25519 : Oid := ofArcs [1, 3, 101, 112]
def sha256 : Oid := ofArcs [2, 16, 840, 1, 101, 3, 4, 2, 1]
def sha384 : Oid := ofArcs [2, 16, 840, 1, 101, 3, 4, 2, 2]
def sha512 : Oid := ofArcs [2, 16, 840, 1, 101, 3, 4, 2, 3]

end Oid

/-! ## Algorithms -/

inductive SignatureAlgorithm where
  | rsaPkcs1Sha1
  | rsaPkcs1Sha256
  | rsaPkcs1Sha384
  | rsaPkcs1Sha512
  | rsaPssSha256
  | rsaPssSha384
  | rsaPssSha512
  | ecdsaSha256
  | ecdsaSha384
  | ed25519
  deriving DecidableEq

namespace SignatureAlgorithm

def name : SignatureAlgorithm → String
  | .rsaPkcs1Sha1 => "sha1WithRSAEncryption"
  | .rsaPkcs1Sha256 => "sha256WithRSAEncryption"
  | .rsaPkcs1Sha384 => "sha384WithRSAEncryption"
  | .rsaPkcs1Sha512 => "sha512WithRSAEncryption"
  | .rsaPssSha256 => "rsassa-pss-sha256"
  | .rsaPssSha384 => "rsassa-pss-sha384"
  | .rsaPssSha512 => "rsassa-pss-sha512"
  | .ecdsaSha256 => "ecdsa-with-SHA256"
  | .ecdsaSha384 => "ecdsa-with-SHA384"
  | .ed25519 => "Ed25519"

/-- The field numbered 0 in front of RSASSA-PSS parameters, the hash; what follows it is not read.
Another field in front, or none, leaves the hash at its default. -/
def pssHash? : Bytes → Except CertificateFault (Option AlgorithmIdentifier)
  | [] => .ok none
  | t :: rest =>
    if !Der.Tag.isKnown t then .error (.pssHash (t :: rest))
    else if !Der.Tag.isContextSpecific t || Der.Tag.number t != 0 then .ok none
    else
      let hash := do
        let (field, _) ← Der.Element.read? (t :: rest)
        if Der.Tag.isConstructed field.tag then
          Der.Element.only? field.content >>= AlgorithmIdentifier.ofElement?
        else none
      match hash with
      | some h => .ok (some h)
      | none => .error (.pssHash (t :: rest))

def ofPssParameters : Option Der.Element → Except TrustError SignatureAlgorithm
  | none => .error (.unsupportedAlgorithm .pssDefaults)
  | some parameters =>
    match pssHash? parameters.content with
    | .error fault => .error (.certificateParsing fault)
    | .ok none => .error (.unsupportedAlgorithm .pssDefaultHash)
    | .ok (some hash) =>
      if hash.oid = .sha256 then .ok rsaPssSha256
      else if hash.oid = .sha384 then .ok rsaPssSha384
      else if hash.oid = .sha512 then .ok rsaPssSha512
      else .error (.unsupportedAlgorithm (.pssHash hash.oid.text))

def ofIdentifier (i : AlgorithmIdentifier) : Except TrustError SignatureAlgorithm :=
  if i.oid = .sha1WithRsa then .ok rsaPkcs1Sha1
  else if i.oid = .sha256WithRsa then .ok rsaPkcs1Sha256
  else if i.oid = .sha384WithRsa then .ok rsaPkcs1Sha384
  else if i.oid = .sha512WithRsa then .ok rsaPkcs1Sha512
  else if i.oid = .rsaPss then ofPssParameters i.parameters
  else if i.oid = .ecdsaWithSha256 then .ok ecdsaSha256
  else if i.oid = .ecdsaWithSha384 then .ok ecdsaSha384
  else if i.oid = .ed25519 then .ok ed25519
  else .error (.unsupportedAlgorithm (.unknown i.oid.text))

/-! ## Schemes -/

/-- The identifier in a key's parameters, which names its curve. -/
def namedCurve? (key : PublicKey) : Option Oid := key.algorithm.parameters >>= Der.Element.oid?

/-- The scheme of an elliptic curve key. -/
def ecdsaFor (a : SignatureAlgorithm) (hash : HashAlgorithm) (key : PublicKey) :
    Except TrustError (Option Scheme) :=
  if key.algorithm.oid ≠ .ecPublicKey then .ok none
  else match namedCurve? key with
    | none => .ok none
    | some curve =>
      if curve = .secp256r1 then .ok (some (.ecdsa .p256 hash))
      else if curve = .secp384r1 then .ok (some (.ecdsa .p384 hash))
      else .error (.unsupportedAlgorithm (.curve a.name curve.text))

/-- The scheme if the key's identifier is among `oids`. -/
def schemeUnder (oids : List Oid) (s : Scheme) (key : PublicKey) :
    Except TrustError (Option Scheme) :=
  .ok (if oids.contains key.algorithm.oid then some s else none)

def schemeFor (a : SignatureAlgorithm) (key : PublicKey) : Except TrustError (Option Scheme) :=
  match a with
  | .rsaPkcs1Sha1 => schemeUnder [.rsaEncryption] (.rsaPkcs1 .sha1) key
  | .rsaPkcs1Sha256 => schemeUnder [.rsaEncryption] (.rsaPkcs1 .sha256) key
  | .rsaPkcs1Sha384 => schemeUnder [.rsaEncryption] (.rsaPkcs1 .sha384) key
  | .rsaPkcs1Sha512 => schemeUnder [.rsaEncryption] (.rsaPkcs1 .sha512) key
  | .rsaPssSha256 => schemeUnder [.rsaEncryption, .rsaPss] (.rsaPss .sha256) key
  | .rsaPssSha384 => schemeUnder [.rsaEncryption, .rsaPss] (.rsaPss .sha384) key
  | .rsaPssSha512 => schemeUnder [.rsaEncryption, .rsaPss] (.rsaPss .sha512) key
  | .ecdsaSha256 => ecdsaFor a .sha256 key
  | .ecdsaSha384 => ecdsaFor a .sha384 key
  | .ed25519 => schemeUnder [.ed25519] .ed25519 key

end SignatureAlgorithm

end ChainOfTrust
