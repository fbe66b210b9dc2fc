import ChainOfTrust.ServerAuth.Path

/-!
# Server verifiers

A `ServerVerifier` decides whether to believe a server: its certificates, and its signature in a
handshake.

- `ServerVerifier.pathVerifier`: the verifier that looks for a path to one of its roots;
- `ChannelScheme`: the signature schemes of handshakes. Before version 1.3 a scheme leaves the curve
  open, and PKCS #1 v1.5 is allowed.
-/

namespace ChainOfTrust

set_option autoImplicit false

open ServerAuth

/-- What a server presents, who it is asked to be, and when. -/
structure Presentation where
  leaf : Bytes
  intermediates : List Bytes
  serverName : ServerName
  /-- A status of the certificate, which no verifier here looks at. -/
  ocspResponse : Bytes := []
  /-- Seconds since 1970. -/
  now : Int

/-- A server's signature of a handshake. -/
structure HandshakeSignature where
  leaf : Bytes
  message : Bytes
  scheme : UInt16
  signature : Bytes

inductive ChannelVersion where
  | tls12
  | tls13
  deriving DecidableEq

/-! ## Schemes of handshakes -/

structure ChannelScheme where
  name : String
  code : UInt16
  /-- The first rule is the one of version 1.3. -/
  rules : List SignatureRule
  inVersion13 : Bool

namespace ChannelScheme

def ecdsa (name : String) (code : UInt16) (hash : HashAlgorithm) (oid : Oid)
    (curves : List CurveName) : ChannelScheme :=
  ⟨name, code, curves.map fun c => SignatureRule.ecdsa c hash oid, true⟩

def all : List ChannelScheme := [
  ecdsa "ECDSA_NISTP384_SHA384" 0x0503 .sha384 .ecdsaWithSha384 [.p384, .p256],
  ecdsa "ECDSA_NISTP256_SHA256" 0x0403 .sha256 .ecdsaWithSha256 [.p256, .p384],
  ⟨"ED25519", 0x0807, [SignatureRule.ed25519], true⟩,
  ⟨"RSA_PSS_SHA512", 0x0806, [SignatureRule.pss .sha512], true⟩,
  ⟨"RSA_PSS_SHA384", 0x0805, [SignatureRule.pss .sha384], true⟩,
  ⟨"RSA_PSS_SHA256", 0x0804, [SignatureRule.pss .sha256], true⟩,
  ⟨"RSA_PKCS1_SHA512", 0x0601, [.pkcs1 .sha512 .sha512WithRsa SignatureRule.null], false⟩,
  ⟨"RSA_PKCS1_SHA384", 0x0501, [.pkcs1 .sha384 .sha384WithRsa SignatureRule.null], false⟩,
  ⟨"RSA_PKCS1_SHA256", 0x0401, [.pkcs1 .sha256 .sha256WithRsa SignatureRule.null], false⟩]

/-- The rules of a scheme by its code, if the version allows it. -/
def rulesFor? (version : ChannelVersion) (code : UInt16) : Option (List SignatureRule) := do
  let scheme ← all.find? fun s => s.code = code
  match version with
  | .tls12 => some scheme.rules
  | .tls13 => if scheme.inVersion13 then some (scheme.rules.take 1) else none

end ChannelScheme

/-! ## Verifiers -/

structure ServerVerifier where
  verifyCertificate : Presentation → Except ChannelError Unit
  verifyHandshake : ChannelVersion → HandshakeSignature → Except ChannelError Unit
  schemes : List ChannelScheme

namespace ServerVerifier

/-- A path, and then the name. -/
def checkPresentation (p : Provider) (roots : List Root) (x : Presentation) :
    Except PathFault Unit := do
  let leaf ← Presented.ofDer x.leaf
  PathSearch.run ⟨p, x.now, roots, x.intermediates⟩ leaf
  isValidFor x.serverName leaf

/-- The scheme is looked at before the certificate. -/
def checkHandshake (p : Provider) (version : ChannelVersion) (x : HandshakeSignature) :
    Except ChannelError Unit := do
  match ChannelScheme.rulesFor? version x.scheme with
  | none => throw .peerMisbehaved
  | some rules =>
    let r := do
      let leaf ← Presented.ofDer x.leaf
      verifyByFirst p leaf.publicKey x.message x.signature .unsupportedAlgorithm rules
    r.mapError PathFault.error

def pathVerifier (p : Provider) (roots : List Root) : ServerVerifier where
  verifyCertificate x := (checkPresentation p roots x).mapError PathFault.error
  verifyHandshake := checkHandshake p
  schemes := ChannelScheme.all

end ServerVerifier

end ChainOfTrust
