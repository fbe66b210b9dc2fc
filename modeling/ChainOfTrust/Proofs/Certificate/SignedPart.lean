import ChainOfTrust.Certificate
import ChainOfTrust.Proofs.Der.Canonical

/-!
# The signed part

The signed part is located by the lengths that two headers would have if they were written again.
The octets found are those that were decoded, since headers have only one form.

* `Content.Encodes der content tbs` : how the octets of a certificate are put together;
* `signedRange_of_encodes` : the range is that of the first part, and no branch of the search fails;
* `Certificate.decode_tbs` : a signed part on its own decodes to what the certificate holds;
* `signed_octets_are_decoded` : the octets before, in and after the range, and what follows for two
  certificates with one signed part;
* `rootCertificate`, `leafCertificate` : a self-signed Ed25519 certificate and one that it signed.
-/

namespace ChainOfTrust

set_option autoImplicit false

open Der (Element)

variable {der : Bytes} {e tbs : Element}

/-! ## Encodings -/

namespace X509

variable {content : Content}

def AlgorithmIdentifier.toElement (a : AlgorithmIdentifier) : Element :=
  ⟨Der.Tag.sequence, (⟨Der.Tag.oid, a.oid.content⟩ :: a.parameters.toList).flatMap Element.encode⟩

theorem AlgorithmIdentifier.eq_toElement {a : AlgorithmIdentifier} (h : ofElement? e = some a) :
    e = a.toElement := by
  obtain ⟨parts, hparts, h⟩ := Option.bind_eq_some_iff.mp h
  have he := Element.eq_of_sequence? hparts
  split at h
  · obtain ⟨o, ho, h⟩ := Option.bind_eq_some_iff.mp h
    cases h
    rw [he, Element.eq_of_oid? ho]
    rfl
  · obtain ⟨o, ho, h⟩ := Option.bind_eq_some_iff.mp h
    cases h
    rw [he, Element.eq_of_oid? ho]
    rfl
  · cases h

/-- What octets decode to as a signed part and nothing else. -/
def TbsCertificate.decode? (der : Bytes) : Option TbsCertificate :=
  if Der.maxLength < der.length then none else Element.only? der >>= TbsCertificate.ofElement?

theorem TbsCertificate.tag_of_ofElement? {t : TbsCertificate} (h : ofElement? e = some t) :
    e.tag = Der.Tag.sequence := by
  obtain ⟨parts, hparts, -⟩ := Option.bind_eq_some_iff.mp h
  rw [Element.eq_of_sequence? hparts]

/-- A certificate as one element, whose first part is the element `tbs`. -/
def Content.toElement (content : Content) (tbs : Element) : Element :=
  ⟨Der.Tag.sequence, tbs.encode ++ (content.signatureAlgorithm.toElement.encode ++
    content.signature.toElement.encode)⟩

theorem Content.encode_toElement (content : Content) (tbs : Element) :
    (content.toElement tbs).encode = (content.toElement tbs).header ++ (tbs.encode ++
      (content.signatureAlgorithm.toElement.encode ++ content.signature.toElement.encode)) :=
  Element.encode_eq _

/-- The octets `der` are those of a certificate whose first part, the element `tbs`, decodes to the
signed part of `content`. -/
structure Content.Encodes (der : Bytes) (content : Content) (tbs : Element) : Prop where
  eq : der = (content.toElement tbs).encode
  length_le : der.length ≤ Der.maxLength
  decoded : TbsCertificate.ofElement? tbs = some content.tbs

theorem Content.exists_encodes (h : decode? der = some content) :
    ∃ tbs, Encodes der content tbs := by
  unfold decode? at h
  split at h
  · cases h
  · rename_i hlen
    obtain ⟨whole, hwhole, h⟩ := Option.bind_eq_some_iff.mp h
    obtain ⟨parts, hparts, h⟩ := Option.bind_eq_some_iff.mp h
    have heq := Element.eq_of_sequence? hparts
    split at h
    · rename_i tbs algorithm signature
      obtain ⟨t, ht, h⟩ := Option.bind_eq_some_iff.mp h
      obtain ⟨a, ha, h⟩ := Option.bind_eq_some_iff.mp h
      obtain ⟨s, hs, h⟩ := Option.bind_eq_some_iff.mp h
      cases h
      refine ⟨tbs, ?_, Nat.not_lt.mp hlen, ht⟩
      rw [Element.eq_encode_of_only? hwhole, heq, AlgorithmIdentifier.eq_toElement ha,
        Element.eq_of_bitString? hs]
      simp [toElement]
    · cases h

end X509

open X509 (Content TbsCertificate)

/-! ## The search for the range -/

namespace Certificate

/-- The header of an element that comes after `before`. -/
theorem sequenceHeader_append (before rest : Bytes) (htag : e.tag = Der.Tag.sequence)
    (hmax : (e.encode ++ rest).length ≤ Der.maxLength) :
    sequenceHeader (before ++ (e.encode ++ rest)) before.length =
      .ok (e.header.length, e.content.length) := by
  have hlen : e.content.length ≤ Der.maxLength := by
    rw [Element.encode_eq, List.length_append, List.length_append] at hmax
    omega
  have hknown : Der.Tag.isKnown e.tag = true := by
    rw [htag]
    decide
  unfold sequenceHeader
  rw [if_neg (by simp), List.drop_left, if_neg (Nat.not_lt.mpr hmax),
    Element.readHeader?_encode hknown hlen, Element.length_header]
  simp only [if_pos htag]

/-- The search comes to the first part, whatever the lengths of the two headers. -/
theorem signedRange_of_encodes {content : Content} (h : content.Encodes der tbs) :
    signedRange der = .ok ⟨(content.toElement tbs).header.length,
      (content.toElement tbs).header.length + tbs.encode.length⟩ := by
  obtain ⟨rfl, hmax, hdecoded⟩ := h
  have hlen := congrArg List.length (content.encode_toElement tbs)
  have htbs : tbs.header.length + tbs.content.length = tbs.encode.length := by
    rw [Element.encode_eq, List.length_append]
  rw [List.length_append, List.length_append] at hlen
  have houter := sequenceHeader_append [] [] (e := content.toElement tbs) rfl
    (by rwa [List.append_nil])
  have hinner := sequenceHeader_append (content.toElement tbs).header
    (content.signatureAlgorithm.toElement.encode ++ content.signature.toElement.encode)
    (TbsCertificate.tag_of_ofElement? hdecoded) (by rw [List.length_append]; omega)
  rw [List.append_nil, List.nil_append, List.length_nil] at houter
  rw [← Content.encode_toElement] at hinner
  unfold signedRange
  simp only [houter, hinner, bind, Except.bind, htbs]
  rw [if_neg (by omega), if_neg (by omega)]

theorem ofDer_eq_ok {content : Content} {r : ByteRange} (h : Content.decode? der = some content)
    (hr : signedRange der = .ok r) : ofDer der = .ok ⟨der, content, r, h, hr⟩ := by
  unfold ofDer
  split
  · rename_i hnone
    rw [h] at hnone
    cases hnone
  · rename_i hsome
    obtain rfl := Option.some.inj (h.symm.trans hsome)
    split
    · rename_i hfault
      rw [hr] at hfault
      cases hfault
    · rename_i hrange
      obtain rfl := Except.ok.inj (hr.symm.trans hrange)
      rfl

/-- Octets are refused for one reason, that they are not a certificate, and the fault names them. -/
theorem ofDer_eq_error_iff {fault : CertificateFault} :
    ofDer der = .error fault ↔ Content.decode? der = none ∧ fault = .undecodable der := by
  rcases h : Content.decode? der with _ | content
  · have hfault : ofDer der = .error (.undecodable der) := by
      unfold ofDer
      split
      · rfl
      · rename_i hsome
        rw [h] at hsome
        cases hsome
    rw [hfault, Except.error.injEq, eq_comm, and_iff_right rfl]
  · obtain ⟨tbs, hencodes⟩ := Content.exists_encodes h
    rw [ofDer_eq_ok h (signedRange_of_encodes hencodes)]
    exact ⟨nofun, fun hnone => (nomatch hnone.1)⟩

/-! ## The octets in and after the range -/

variable {c : Certificate}

theorem exists_encodes (c : Certificate) : ∃ tbs, c.content.Encodes c.der tbs :=
  Content.exists_encodes c.decode_der

theorem signed_of_encodes (h : c.content.Encodes c.der tbs) :
    c.signed = ⟨(c.content.toElement tbs).header.length,
      (c.content.toElement tbs).header.length + tbs.encode.length⟩ :=
  Except.ok.inj (c.range_der.symm.trans (signedRange_of_encodes h))

theorem tbs_of_encodes (h : c.content.Encodes c.der tbs) : c.tbs = tbs.encode := by
  unfold Certificate.tbs
  rw [signed_of_encodes h, h.eq, Content.encode_toElement, ← List.append_assoc,
    List.take_left' List.length_append, List.drop_left]

theorem drop_stop_of_encodes (h : c.content.Encodes c.der tbs) :
    c.der.drop c.signed.stop =
      c.content.signatureAlgorithm.toElement.encode ++ c.content.signature.toElement.encode := by
  rw [signed_of_encodes h, h.eq, Content.encode_toElement, ← List.append_assoc,
    List.drop_left' List.length_append]

theorem readHeader?_of_encodes (h : c.content.Encodes c.der tbs) :
    Element.readHeader? c.der =
      some ((Der.Tag.sequence, (c.content.toElement tbs).content.length),
        c.der.drop c.signed.start) := by
  have hdrop : c.der.drop c.signed.start = (c.content.toElement tbs).content := by
    rw [signed_of_encodes h, h.eq, (c.content.toElement tbs).encode_eq, List.drop_left]
  have hmax := h.length_le
  rw [hdrop, h.eq, Element.readHeader?_eq_some_iff]
  rw [h.eq, Element.encode_eq, List.length_append] at hmax
  exact ⟨rfl, by decide, by omega⟩

theorem stop_le_of_encodes (h : c.content.Encodes c.der tbs) : c.signed.stop ≤ c.der.length := by
  have hlen := congrArg List.length (c.content.encode_toElement tbs)
  rw [List.length_append, List.length_append, ← h.eq] at hlen
  rw [signed_of_encodes h]
  show _ + _ ≤ _
  omega

theorem tbs_length_le_of_encodes (h : c.content.Encodes c.der tbs) :
    c.tbs.length ≤ Der.maxLength := by
  have hstop := stop_le_of_encodes h
  have hmax := h.length_le
  unfold Certificate.tbs
  rw [List.length_drop, List.length_take]
  omega

theorem only?_tbs_of_encodes (h : c.content.Encodes c.der tbs) :
    Element.only? c.tbs = some tbs := by
  have hmax := tbs_length_le_of_encodes h
  rw [tbs_of_encodes h, Element.encode_eq, List.length_append] at hmax
  rw [tbs_of_encodes h]
  refine Element.only?_encode ?_ (by omega)
  rw [TbsCertificate.tag_of_ofElement? h.decoded]
  decide

/-- The signed part on its own decodes to what the certificate holds. -/
theorem decode_tbs (c : Certificate) : TbsCertificate.decode? c.tbs = some c.content.tbs := by
  obtain ⟨tbs, h⟩ := c.exists_encodes
  unfold TbsCertificate.decode?
  rw [if_neg (Nat.not_lt.mpr (tbs_length_le_of_encodes h)), only?_tbs_of_encodes h]
  exact h.decoded

theorem content_tbs_eq_of_tbs_eq {c' : Certificate} (h : c.tbs = c'.tbs) :
    c.content.tbs = c'.content.tbs := by
  have hc := c.decode_tbs
  rw [h, c'.decode_tbs] at hc
  exact (Option.some.inj hc).symm

/-- **The octets that are signed are the octets that are decoded.** -/
theorem signed_octets_are_decoded :
    (∀ der content, Content.decode? der = some content →
      ∃ c, ofDer der = .ok c ∧ c.content = content ∧ signedRange der = .ok c.signed ∧
        c.signed.start ≤ c.signed.stop ∧ c.signed.stop ≤ der.length ∧
        (∃ n, Element.readHeader? der =
          some ((Der.Tag.sequence, n), der.drop c.signed.start)) ∧
        (∃ e, Element.only? c.tbs = some e ∧ e.tag = Der.Tag.sequence ∧ e.encode = c.tbs) ∧
        TbsCertificate.decode? c.tbs = some content.tbs ∧
        der.drop c.signed.stop =
          content.signatureAlgorithm.toElement.encode ++ content.signature.toElement.encode) ∧
    ∀ c c' : Certificate, c.tbs = c'.tbs →
      c.subject = c'.subject ∧ c.issuer = c'.issuer ∧ c.publicKey = c'.publicKey ∧
        c.validity = c'.validity ∧ c.serial = c'.serial ∧ c.extensions = c'.extensions := by
  constructor
  · intro der content hdecode
    obtain ⟨tbs, h⟩ := Content.exists_encodes hdecode
    have hrange := signedRange_of_encodes h
    let c : Certificate := ⟨der, content, _, hdecode, hrange⟩
    have hc : c.content.Encodes c.der tbs := h
    refine ⟨c, ofDer_eq_ok hdecode hrange, rfl, hrange, Nat.le_add_right _ _,
      stop_le_of_encodes hc, ⟨_, readHeader?_of_encodes hc⟩,
      ⟨tbs, only?_tbs_of_encodes hc, TbsCertificate.tag_of_ofElement? h.decoded,
        (tbs_of_encodes hc).symm⟩, c.decode_tbs, drop_stop_of_encodes hc⟩
  · intro c c' htbs
    have h := content_tbs_eq_of_tbs_eq htbs
    unfold subject issuer publicKey validity serial extensions
    rw [h]
    exact ⟨rfl, rfl, rfl, rfl, rfl, rfl⟩

end Certificate

/-! ## A root and a leaf -/

def rootDer : Bytes :=
  [0x30, 0x81, 0xC4, 0x30, 0x78, 0x02, 0x01, 0x01, 0x30, 0x05, 0x06, 0x03, 0x2B, 0x65, 0x70, 0x30,
  0x0F, 0x31, 0x0D, 0x30, 0x0B, 0x06, 0x03, 0x55, 0x04, 0x03, 0x0C, 0x04, 0x52, 0x6F, 0x6F, 0x74,
  0x30, 0x1E, 0x17, 0x0D, 0x32, 0x30, 0x30, 0x31, 0x30, 0x31, 0x30, 0x30, 0x30, 0x30, 0x30, 0x30,
  0x5A, 0x17, 0x0D, 0x34, 0x39, 0x31, 0x32, 0x33, 0x31, 0x32, 0x33, 0x35, 0x39, 0x35, 0x39, 0x5A,
  0x30, 0x0F, 0x31, 0x0D, 0x30, 0x0B, 0x06, 0x03, 0x55, 0x04, 0x03, 0x0C, 0x04, 0x52, 0x6F, 0x6F,
  0x74, 0x30, 0x2A, 0x30, 0x05, 0x06, 0x03, 0x2B, 0x65, 0x70, 0x03, 0x21, 0x00, 0xAA, 0x74, 0x92,
  0x02, 0xF3, 0x2D, 0xEA, 0xEA, 0x1F, 0xB4, 0x41, 0x78, 0xF3, 0xB4, 0x12, 0x14, 0x77, 0x12, 0x83,
  0x3D, 0x57, 0xB3, 0xF8, 0xD1, 0x35, 0x6C, 0x6E, 0x41, 0x76, 0xC3, 0x19, 0x20, 0x30, 0x05, 0x06,
  0x03, 0x2B, 0x65, 0x70, 0x03, 0x41, 0x00, 0xBA, 0x6E, 0xAB, 0x13, 0x61, 0xE0, 0x9B, 0x62, 0xDA,
  0x88, 0x34, 0xF0, 0x4B, 0xE7, 0xF6, 0xFF, 0xDE, 0x09, 0xEE, 0x3F, 0xF2, 0x05, 0x61, 0xDC, 0x8C,
  0x0E, 0xDA, 0x58, 0x15, 0xB3, 0xD9, 0x29, 0x6B, 0xF1, 0xCD, 0x1B, 0x37, 0xCA, 0xE0, 0xE6, 0xED,
  0x68, 0x74, 0xF2, 0xAB, 0x88, 0x8B, 0x49, 0xC0, 0xED, 0x89, 0xA7, 0x5B, 0xDB, 0xE5, 0x2B, 0xFF,
  0x78, 0x04, 0x1B, 0x2E, 0x59, 0x7E, 0x0D]

def leafDer : Bytes :=
  [0x30, 0x81, 0xC4, 0x30, 0x78, 0x02, 0x01, 0x02, 0x30, 0x05, 0x06, 0x03, 0x2B, 0x65, 0x70, 0x30,
  0x0F, 0x31, 0x0D, 0x30, 0x0B, 0x06, 0x03, 0x55, 0x04, 0x03, 0x0C, 0x04, 0x52, 0x6F, 0x6F, 0x74,
  0x30, 0x1E, 0x17, 0x0D, 0x32, 0x30, 0x30, 0x31, 0x30, 0x31, 0x30, 0x30, 0x30, 0x30, 0x30, 0x30,
  0x5A, 0x17, 0x0D, 0x34, 0x39, 0x31, 0x32, 0x33, 0x31, 0x32, 0x33, 0x35, 0x39, 0x35, 0x39, 0x5A,
  0x30, 0x0F, 0x31, 0x0D, 0x30, 0x0B, 0x06, 0x03, 0x55, 0x04, 0x03, 0x0C, 0x04, 0x4C, 0x65, 0x61,
  0x66, 0x30, 0x2A, 0x30, 0x05, 0x06, 0x03, 0x2B, 0x65, 0x70, 0x03, 0x21, 0x00, 0x2D, 0x79, 0x3F,
  0x7D, 0xE4, 0xF2, 0x96, 0x87, 0xC6, 0xE8, 0x6D, 0x12, 0xF0, 0xB8, 0x9C, 0x5C, 0x9E, 0xAE, 0x7A,
  0x1E, 0x4A, 0xAB, 0xD3, 0xEA, 0x22, 0x10, 0x05, 0xE1, 0x47, 0x75, 0x6A, 0xB3, 0x30, 0x05, 0x06,
  0x03, 0x2B, 0x65, 0x70, 0x03, 0x41, 0x00, 0x86, 0x2B, 0x60, 0xE4, 0xE7, 0xF6, 0xC2, 0x67, 0x40,
  0x06, 0x5F, 0xDA, 0xE2, 0x77, 0xEF, 0x85, 0x25, 0x22, 0x9C, 0x76, 0xB1, 0xDF, 0x12, 0x55, 0x7C,
  0xBE, 0x6B, 0x7B, 0x46, 0x5B, 0x61, 0xCB, 0x67, 0xA9, 0x24, 0xEF, 0xF4, 0xD3, 0x8C, 0xA5, 0x1D,
  0x5C, 0xED, 0xB8, 0xC7, 0xB9, 0x27, 0xE5, 0x62, 0x14, 0x4D, 0xE9, 0xFC, 0x66, 0xDE, 0x29, 0x7A,
  0xB4, 0x56, 0xB4, 0x86, 0x05, 0xB5, 0x0F]

/-- A certificate for CN=Root, valid from 2020 to 2049, under its own key. -/
def rootCertificate : Certificate := (Certificate.ofDer rootDer).toOption.get (by decide +kernel)

/-- A certificate for CN=Leaf that `rootCertificate` signed. -/
def leafCertificate : Certificate := (Certificate.ofDer leafDer).toOption.get (by decide +kernel)

theorem signed_octets_of_root :
    ∃ c, Certificate.ofDer rootDer = .ok c ∧ c.signed.stop ≤ rootDer.length ∧
      TbsCertificate.decode? c.tbs = some rootCertificate.content.tbs := by
  obtain ⟨c, hc, -, -, -, hstop, -, -, hdecode, -⟩ :=
    Certificate.signed_octets_are_decoded.1 rootDer rootCertificate.content (by decide +kernel)
  exact ⟨c, hc, hstop, hdecode⟩

end ChainOfTrust
