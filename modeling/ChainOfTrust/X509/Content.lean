import ChainOfTrust.Der.Time
import ChainOfTrust.X509.AlgorithmIdentifier
import ChainOfTrust.X509.NameText

/-!
# The content of a certificate

- `Validity`, `Extension`, `TbsCertificate`, `Content`: the parts of a certificate as they are
  decoded;
- `field`: the optional fields at the end of the signed part;
- `Content.decode?`: what octets hold that are one certificate and nothing else.
-/

namespace ChainOfTrust.X509

set_option autoImplicit false

open Der (Element BitString)

/-! ## Parts -/

/-- Seconds since 1970 began; both ends belong to the period. -/
structure Validity where
  notBefore : Nat
  notAfter : Nat
  deriving DecidableEq

def Validity.ofElement? (e : Element) : Option Validity := do
  match ← e.sequence? with
  | [first, last] => some ⟨← first.time?, ← last.time?⟩
  | _ => none

structure Extension where
  oid : Oid
  critical : Bool
  value : Bytes
  deriving DecidableEq

def Extension.ofElement? (e : Element) : Option Extension := do
  match ← e.sequence? with
  | [oid, value] => some ⟨← oid.oid?, false, ← value.expect? Der.Tag.octetString⟩
  | [oid, critical, value] =>
    some ⟨← oid.oid?, ← critical.boolean?, ← value.expect? Der.Tag.octetString⟩
  | _ => none

/-! ## Optional fields -/

/-- The field numbered `n` in front of `es`, if it is there, and what follows. Context-specific
elements with a smaller number are passed over. -/
def field (n : Nat) : List Element → Option Element × List Element
  | [] => (none, [])
  | e :: es =>
    if !Der.Tag.isContextSpecific e.tag || n < Der.Tag.number e.tag then (none, e :: es)
    else if Der.Tag.number e.tag = n then (some e, es)
    else field n es

/-- The element that an explicitly tagged field wraps. -/
def explicit? (e : Element) : Option Element :=
  if Der.Tag.isConstructed e.tag then Element.only? e.content else none

/-- An implicitly tagged bit string. -/
def implicitBits? (e : Element) : Option BitString :=
  if Der.Tag.isConstructed e.tag then none else BitString.ofContent? e.content

/-- Version 1, 2 or 3, written as the number before. -/
def version? (e : Element) : Option Nat := do
  match ← (← explicit? e).integer? with
  | [n] => if n < 3 then some (n.toNat + 1) else none
  | _ => none

def extensions? (e : Element) : Option (List Extension) := do
  (← (← explicit? e).sequence?).mapM Extension.ofElement?

/-- `read?` of a field that may be absent. -/
def optional? {α : Type} (read? : Element → Option α) : Option Element → Option (Option α)
  | none => some none
  | some e => (read? e).map some

/-! ## Content -/

/-- The signed part. -/
structure TbsCertificate where
  version : Nat
  serial : Bytes
  algorithm : AlgorithmIdentifier
  issuer : Name
  validity : Validity
  subject : Name
  publicKey : PublicKey
  issuerId : Option BitString
  subjectId : Option BitString
  extensions : Option (List Extension)
  deriving DecidableEq

/-- A serial number has at most 21 octets. -/
def serial? (e : Element) : Option Bytes := do
  let s ← e.integer?
  if s.length ≤ 21 then some s else none

def TbsCertificate.ofElement? (e : Element) : Option TbsCertificate := do
  let (version, es) := field 0 (← e.sequence?)
  match es with
  | serial :: algorithm :: issuer :: validity :: subject :: publicKey :: es =>
    let (issuerId, es) := field 1 es
    let (subjectId, es) := field 2 es
    let (extensions, es) := field 3 es
    if es ≠ [] then none
    else
      some {
        version := ← (optional? version? version).map (·.getD 1)
        serial := ← serial? serial
        algorithm := ← AlgorithmIdentifier.ofElement? algorithm
        issuer := ← Name.ofElement? issuer
        validity := ← Validity.ofElement? validity
        subject := ← Name.ofElement? subject
        publicKey := ← PublicKey.ofElement? publicKey
        issuerId := ← optional? implicitBits? issuerId
        subjectId := ← optional? implicitBits? subjectId
        extensions := ← optional? extensions? extensions }
  | _ => none

structure Content where
  tbs : TbsCertificate
  signatureAlgorithm : AlgorithmIdentifier
  signature : BitString
  deriving DecidableEq

def Content.ofElement? (e : Element) : Option Content := do
  match ← e.sequence? with
  | [tbs, algorithm, signature] =>
    some ⟨← TbsCertificate.ofElement? tbs, ← AlgorithmIdentifier.ofElement? algorithm,
      ← signature.bitString?⟩
  | _ => none

def Content.decode? (der : Bytes) : Option Content :=
  if Der.maxLength < der.length then none else Element.only? der >>= Content.ofElement?

end ChainOfTrust.X509
