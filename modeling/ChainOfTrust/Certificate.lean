import ChainOfTrust.Error
import ChainOfTrust.Hash.Sha256
import ChainOfTrust.Text.Quoted
import ChainOfTrust.X509.Content

/-!
# Certificates

A `Certificate` is an octet string together with what it decodes to, so two certificates with the
same octets are the same.

- `signedRange`: where the signed part lies, found from the headers of the octets alone;
- `Certificate.ofDer`: the certificate that octets hold;
- the parts that a validation looks at, and the fingerprint, the SHA-256 digest of the octets.
-/

namespace ChainOfTrust

set_option autoImplicit false

open Der (Element)

/-! ## The signed part -/

/-- A half-open range of offsets. -/
structure ByteRange where
  start : Nat
  stop : Nat
  deriving DecidableEq

namespace Certificate

/-- The length in the header of the sequence that starts at `start`, and the header's own length
when it is written in the shortest form. -/
def sequenceHeader (der : Bytes) (start : Nat) : Except CertificateFault (Nat × Nat) :=
  if der.length < start then .error .truncated
  else if Der.maxLength < (der.drop start).length then .error (.der (der.drop start))
  else match Element.readHeader? (der.drop start) with
    | some ((tag, length), _) =>
      if tag = Der.Tag.sequence then .ok (2 + Der.lengthExtra length, length) else .error (.der (der.drop start))
    | none => .error (.der (der.drop start))

/-- The first element inside the outermost one. -/
def signedRange (der : Bytes) : Except CertificateFault ByteRange := do
  let (start, _) ← sequenceHeader der 0
  let (header, length) ← sequenceHeader der start
  if Der.maxLength < header + length then .error (.der (der.drop start))
  else if der.length < start + (header + length) then .error .overlong
  else .ok ⟨start, start + (header + length)⟩

end Certificate

/-! ## Certificates -/

structure Certificate where
  der : Bytes
  content : X509.Content
  signed : ByteRange
  decode_der : X509.Content.decode? der = some content
  range_der : Certificate.signedRange der = .ok signed

namespace Certificate

@[ext] theorem ext {c d : Certificate} (h : c.der = d.der) : c = d := by
  obtain ⟨der, content, signed, hc, hs⟩ := c
  obtain ⟨der', content', signed', hc', hs'⟩ := d
  cases h
  cases Option.some.inj (hc.symm.trans hc')
  cases Except.ok.inj (hs.symm.trans hs')
  rfl

instance : DecidableEq Certificate := fun c d =>
  if h : c.der = d.der then .isTrue (ext h) else .isFalse fun e => h (e ▸ rfl)

instance : Hashable Certificate := ⟨fun c => hash c.der⟩

def ofDer (der : Bytes) : Except CertificateFault Certificate :=
  match hc : X509.Content.decode? der with
  | none => .error (.undecodable der)
  | some content =>
    match hs : signedRange der with
    | .error fault => .error fault
    | .ok signed => .ok ⟨der, content, signed, hc, hs⟩

variable (c : Certificate)

/-! ## Parts -/

/-- The octets that the signature covers. -/
def tbs : Bytes := (c.der.take c.signed.stop).drop c.signed.start

def subject : X509.Name := c.content.tbs.subject

def issuer : X509.Name := c.content.tbs.issuer

def publicKey : X509.PublicKey := c.content.tbs.publicKey

def signatureAlgorithm : X509.AlgorithmIdentifier := c.content.signatureAlgorithm

/-- The octets of the signature; bits marked as unused are not taken off. -/
def signature : Bytes := c.content.signature.octets

def validity : X509.Validity := c.content.tbs.validity

def extensions : List X509.Extension := c.content.tbs.extensions.getD []

def serial : Bytes := c.content.tbs.serial

def fingerprint : Bytes := Hash.Sha256.digest c.der

/-- The certificate for a human reader, on one line. -/
def summary : String :=
  "Certificate \x7b subject: " ++ Text.quote c.subject.text ++
    ", issuer: " ++ Text.quote c.issuer.text ++
    ", serial: " ++ Text.quote c.serial.hex ++
    ", fingerprint: " ++ Text.quote c.fingerprint.hex ++ " \x7d"

end Certificate

end ChainOfTrust
