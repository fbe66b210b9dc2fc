import ChainOfTrust.Der.Oid
import ChainOfTrust.ServerAuth.Reader

/-!
# Certificates as a server presents them

`Presented.ofDer` reads a certificate of version 3. Most parts are kept as octets: names are compared
by their octets, and the rest is read where it counts. Known extensions may come once only, and a
critical one must be known; `Presented.ofAnchor` lets the latter pass.
-/

namespace ChainOfTrust.ServerAuth

set_option autoImplicit false

/-! ## Extensions -/

/-- The value of a known extension under the last arc of its identifier, which is below 2.5.29. -/
abbrev KnownExtension := UInt8 × Bytes

def keyUsage : UInt8 := 15
def subjectAltName : UInt8 := 17
def basicConstraints : UInt8 := 19
def nameConstraints : UInt8 := 30
def distributionPoints : UInt8 := 31
def extendedKeyUsage : UInt8 := 37

def knownExtensions : List UInt8 :=
  [keyUsage, subjectAltName, basicConstraints, nameConstraints, distributionPoints, extendedKeyUsage]

/-- The last arc of the identifier of a known extension. -/
def knownArc? (oid : Bytes) : Option UInt8 :=
  match oid with
  | [0x55, 0x1D, arc] => if knownExtensions.contains arc then some arc else none
  | _ => none

/-- Adds an extension to those read before it. -/
def rememberExtension (lenient : Bool) (known : List KnownExtension) (oid : Bytes)
    (critical : Bool) (value : Bytes) : Except PathFault (List KnownExtension) :=
  match knownArc? oid with
  | none => if critical && !lenient then .error .unsupportedCriticalExtension else .ok known
  | some arc =>
    if (known.lookup arc).isSome then .error .repeatedExtension
    else if arc = keyUsage then .ok ((arc, value) :: known)
    else do
      let content ← Reader.all .badDer (Reader.expect Der.Tag.sequence) value
      return (arc, content) :: known

def extensionStep (lenient : Bool) (known : List KnownExtension) : Reader (List KnownExtension) :=
  Reader.nested Der.Tag.sequence .trailingData do
    let oid ← Reader.expect Der.Tag.oid
    let critical ← Reader.optionalBool
    let value ← Reader.expect Der.Tag.octetString
    rememberExtension lenient known oid critical value

/-! ## Certificates -/

structure Presented where
  /-- The octets that the signature covers. -/
  signed : Bytes
  algorithm : Bytes
  signature : Bytes
  issuer : Bytes
  validity : Bytes
  subject : Bytes
  publicKey : Bytes
  extensions : List KnownExtension
  deriving DecidableEq

namespace Presented

def extension? (c : Presented) (arc : UInt8) : Option Bytes := c.extensions.lookup arc

/-- The number 2 stands for version 3. -/
def version : Reader Unit :=
  Reader.nested 0xA0 .unsupportedVersion do
    if (← Reader.smallNat) = 2 then return () else throw .unsupportedVersion

/-- The fields of the signed part; `algorithm` is the identifier outside of it. -/
def body (lenient : Bool) (signed algorithm signature : Bytes) : Reader Presented := do
  version
  let _serial ← Reader.expect Der.Tag.integer
  let inner ← Reader.expect Der.Tag.sequence
  if inner ≠ algorithm then throw .algorithmMismatch
  let issuer ← Reader.expect Der.Tag.sequence
  let validity ← Reader.expect Der.Tag.sequence
  let subject ← Reader.expect Der.Tag.sequence
  let publicKey ← Reader.expect Der.Tag.sequence
  let extensions ←
    if ← Reader.atEnd then pure []
    else
      Reader.nested 0xA3 .trailingData
        (Reader.nested Der.Tag.sequence .trailingData (Reader.fold (extensionStep lenient) []))
  return { signed, algorithm, signature, issuer, validity, subject, publicKey, extensions }

/-- The signed part with its header, its content, the algorithm and the signature. -/
def frame : Reader (Bytes × Bytes × Bytes × Bytes) :=
  Reader.nested Der.Tag.sequence .trailingData do
    let whole ← get
    let content ← Reader.expect Der.Tag.sequence
    let signed := whole.take (whole.length - (← get).length)
    let algorithm ← Reader.expect Der.Tag.sequence
    let signature ← Reader.bits
    return (signed, content, algorithm, signature)

def read (lenient : Bool) (der : Bytes) : Except PathFault Presented := do
  let (signed, content, algorithm, signature) ← Reader.all .trailingData frame der
  Reader.all .trailingData (body lenient signed algorithm signature) content

def ofDer (der : Bytes) : Except PathFault Presented := read false der

def ofAnchor (der : Bytes) : Except PathFault Presented := read true der

end Presented

end ChainOfTrust.ServerAuth
