import ChainOfTrust.Proofs.Der.Canonical
import ChainOfTrust.Proofs.Signature.Outcomes

/-!
# The parameters of RSASSA-PSS

RFC 4055, section 3.1: a sequence of four fields that may be absent, for the hash, the mask
generation, the length of the salt and the trailer.

* `PssParameters.ofElement?` : parameters that are read to their end, with the defaults for the fields
  that are absent;
* `PssParameters.Declares q h` : the parameters are those of the one scheme there is for the hash `h`;
* `HashField`, `NoHashField` : what the octets of parameters begin with, which is all that
  `pssHash?` looks at;
* `ofIdentifier_pss` : an identifier is resolved by the hash in front of its parameters, and fails
  where there is none or another one. What stands behind the hash does not count, so parameters that
  declare no scheme there is are resolved as well (`ofIdentifier_shortSalt`).
-/

namespace ChainOfTrust

set_option autoImplicit false

open Der (Element)
open X509 (AlgorithmIdentifier)

namespace Oid

def sha1 : Oid := ofArcs [1, 3, 14, 3, 2, 26]
def mgf1 : Oid := ofArcs [1, 2, 840, 113549, 1, 1, 8]

end Oid

def HashAlgorithm.oid : HashAlgorithm → Oid
  | .sha1 => .sha1
  | .sha256 => .sha256
  | .sha384 => .sha384
  | .sha512 => .sha512

/-! ## Parameters as they are declared -/

/-- A number in two's complement. -/
def Der.Element.int? (e : Element) : Option Int := do
  let c ← e.integer?
  some (if c.headD 0 < 0x80 then Bytes.toNat c else Bytes.toNat c - 256 ^ c.length)

structure PssParameters where
  hash : AlgorithmIdentifier
  mask : AlgorithmIdentifier
  saltLength : Int
  trailer : Int
  deriving DecidableEq

namespace PssParameters

/-- What a field with this tag wraps, if it is the next one, and what follows. -/
def next? {α : Type} (tag : UInt8) (read? : Element → Option α) :
    List Element → Option (Option α × List Element)
  | [] => some (none, [])
  | e :: es =>
    if e.tag = tag then do some (some (← read? (← Element.only? e.content)), es)
    else some (none, e :: es)

/-- SHA-1 in an identifier, with the parameters it is written with. -/
def sha1 : AlgorithmIdentifier := ⟨.sha1, some ⟨0x05, []⟩⟩

def mgf1Sha1 : AlgorithmIdentifier :=
  ⟨.mgf1, some ⟨Der.Tag.sequence, [0x06, 0x05, 0x2B, 0x0E, 0x03, 0x02, 0x1A, 0x05, 0x00]⟩⟩

def ofElement? (e : Element) : Option PssParameters := do
  let (hash, es) ← next? 0xA0 AlgorithmIdentifier.ofElement? (← e.sequence?)
  let (mask, es) ← next? 0xA1 AlgorithmIdentifier.ofElement? es
  let (saltLength, es) ← next? 0xA2 Element.int? es
  let (trailer, es) ← next? 0xA3 Element.int? es
  if es = [] then
    some ⟨hash.getD sha1, mask.getD mgf1Sha1, saltLength.getD 20, trailer.getD 1⟩
  else none

/-- The hash is `h`, MGF1 makes the mask with the same hash, the salt is as long as a digest, and the
trailer is the one there is. -/
structure Declares (q : PssParameters) (h : HashAlgorithm) : Prop where
  hash : q.hash.oid = h.oid
  mask : q.mask.oid = .mgf1
  maskHash : ∃ e i, q.mask.parameters = some e ∧ AlgorithmIdentifier.ofElement? e = some i ∧
    i.oid = h.oid
  saltLength : q.saltLength = h.size
  trailer : q.trailer = 1

end PssParameters

/-! ## The hash in front -/

namespace SignatureAlgorithm

/-- The octets begin with a field that wraps the identifier of a hash, and nothing else. -/
def HashField (content : Bytes) (hash : AlgorithmIdentifier) : Prop :=
  ∃ field inner rest, Element.read? content = some (field, rest) ∧ field.tag = 0xA0 ∧
    Element.only? field.content = some inner ∧ AlgorithmIdentifier.ofElement? inner = some hash

/-- There are no octets, or they begin with the tag of something else. -/
def NoHashField (content : Bytes) : Prop :=
  ∀ t rest, content = t :: rest → Der.Tag.isKnown t = true ∧ t ≠ 0x80 ∧ t ≠ 0xA0

variable {a : SignatureAlgorithm} {content rest : Bytes} {hash : AlgorithmIdentifier}
variable {e field : Element} {t : UInt8} {fault : TrustError} {f : CertificateFault}

/-- The tags that say a field is numbered 0, and the one of them that says it wraps an element. -/
theorem numberedZero_iff (t : UInt8) :
    ((!Der.Tag.isContextSpecific t || Der.Tag.number t != 0) = false ↔ t = 0x80 ∨ t = 0xA0) ∧
      (t = 0x80 ∨ t = 0xA0 → (Der.Tag.isConstructed t = true ↔ t = 0xA0)) := by
  have hall : ∀ n < 256,
      ((!Der.Tag.isContextSpecific (UInt8.ofNat n) || Der.Tag.number (UInt8.ofNat n) != 0) = false ↔
        UInt8.ofNat n = 0x80 ∨ UInt8.ofNat n = 0xA0) ∧
      (UInt8.ofNat n = 0x80 ∨ UInt8.ofNat n = 0xA0 →
        (Der.Tag.isConstructed (UInt8.ofNat n) = true ↔ UInt8.ofNat n = 0xA0)) := by decide +kernel
  have ht := hall t.toNat t.toNat_lt
  rwa [UInt8.ofNat_toNat] at ht

theorem HashField.exists_cons (h : HashField content hash) : ∃ rest, content = 0xA0 :: rest := by
  obtain ⟨field, inner, rest, hread, htag, -⟩ := h
  refine ⟨Der.encodeLength field.content.length ++ field.content ++ rest, ?_⟩
  rw [(Element.read?_eq_some_iff.mp hread).1, Element.encode, htag, List.cons_append]

theorem HashField.unique {hash' : AlgorithmIdentifier} (h : HashField content hash)
    (h' : HashField content hash') : hash = hash' := by
  obtain ⟨field, inner, rest, hread, -, honly, hhash⟩ := h
  obtain ⟨field', inner', rest', hread', -, honly', hhash'⟩ := h'
  cases hread.symm.trans hread'
  cases honly.symm.trans honly'
  exact Option.some.inj (hhash.symm.trans hhash')

theorem HashField.not_noHashField (h : HashField content hash) : ¬ NoHashField content := by
  obtain ⟨rest, rfl⟩ := h.exists_cons
  exact fun hno => (hno _ _ rfl).2.2 rfl

/-- The hash in the octets that begin with a field numbered 0, if the field is what it should be. -/
def wrapped? (content : Bytes) : Option AlgorithmIdentifier := do
  let (field, _) ← Element.read? content
  if Der.Tag.isConstructed field.tag then
    Element.only? field.content >>= AlgorithmIdentifier.ofElement?
  else none

theorem wrapped?_eq_some_iff (ht : t = 0x80 ∨ t = 0xA0) :
    wrapped? (t :: rest) = some hash ↔ HashField (t :: rest) hash := by
  have htag : ∀ field tail, Element.read? (t :: rest) = some (field, tail) → field.tag = t := by
    intro field tail hread
    exact (List.cons.inj (Element.read?_eq_some_iff.mp hread).1).1.symm
  constructor
  · intro h
    obtain ⟨⟨field, tail⟩, hread, h⟩ := Option.bind_eq_some_iff.mp h
    simp only at h
    split at h
    · rename_i hconstructed
      obtain ⟨inner, honly, hhash⟩ := Option.bind_eq_some_iff.mp h
      rw [htag field tail hread] at hconstructed
      refine ⟨field, inner, tail, hread, ?_, honly, hhash⟩
      rw [htag field tail hread]
      exact ((numberedZero_iff t).2 ht).mp hconstructed
    · cases h
  · rintro ⟨field, inner, tail, hread, hfield, honly, hhash⟩
    unfold wrapped?
    have hconstructed : Der.Tag.isConstructed field.tag = true := by rw [hfield]; decide
    simp only [hread, Option.bind_eq_bind, Option.bind_some, hconstructed, if_true, honly, hhash]

theorem pssHash?_cons (t : UInt8) (rest : Bytes) :
    pssHash? (t :: rest) =
      if !Der.Tag.isKnown t then .error (.pssHash (t :: rest))
      else if !Der.Tag.isContextSpecific t || Der.Tag.number t != 0 then .ok none
      else match wrapped? (t :: rest) with
        | some hash => .ok (some hash)
        | none => .error (.pssHash (t :: rest)) := rfl

theorem pssHash?_of_numberedZero (hknown : Der.Tag.isKnown t = true) (ht : t = 0x80 ∨ t = 0xA0)
    (rest : Bytes) :
    pssHash? (t :: rest) =
      match wrapped? (t :: rest) with
      | some hash => .ok (some hash)
      | none => .error (.pssHash (t :: rest)) := by
  rw [pssHash?_cons, hknown, (numberedZero_iff t).1.mpr ht]
  rfl

theorem pssHash?_of_hashField (h : HashField content hash) : pssHash? content = .ok (some hash) := by
  obtain ⟨rest, rfl⟩ := h.exists_cons
  rw [pssHash?_of_numberedZero (by decide) (Or.inr rfl), (wrapped?_eq_some_iff (Or.inr rfl)).mpr h]

theorem pssHash?_of_noHashField (h : NoHashField content) : pssHash? content = .ok none := by
  cases content with
  | nil => rfl
  | cons t rest =>
    obtain ⟨hknown, h80, hA0⟩ := h t rest rfl
    have hother : (!Der.Tag.isContextSpecific t || Der.Tag.number t != 0) = true := by
      rw [← Bool.not_eq_false, (numberedZero_iff t).1]
      exact fun ht => ht.elim h80 hA0
    rw [pssHash?_cons, hknown, hother]
    rfl

theorem pssHash?_of_neither (hno : ¬ NoHashField content) (h : ∀ hash, ¬ HashField content hash) :
    pssHash? content = .error (.pssHash content) := by
  cases content with
  | nil => exact absurd nofun hno
  | cons t rest =>
    by_cases hknown : Der.Tag.isKnown t = true
    · have ht : t = 0x80 ∨ t = 0xA0 := by
        by_contra hother
        rw [not_or] at hother
        refine hno fun t' rest' heq => ?_
        cases heq
        exact ⟨hknown, hother⟩
      rw [pssHash?_of_numberedZero hknown ht]
      cases hwrapped : wrapped? (t :: rest) with
      | none => rfl
      | some hash => exact absurd ((wrapped?_eq_some_iff ht).mp hwrapped) (h hash)
    · rw [pssHash?_cons, Bool.eq_false_of_not_eq_true hknown]
      rfl

/-! ## Resolution -/

/-- The hashes that a signature may be made with under RSASSA-PSS are not SHA-1. -/
theorem ne_sha1_of_family {h : HashAlgorithm} (hf : a.family = .rsaPss h) : h ≠ .sha1 := by
  rintro rfl
  cases a <;> cases hf

theorem exists_family_rsaPss {h : HashAlgorithm} (hne : h ≠ .sha1) :
    ∃ a : SignatureAlgorithm, a.family = .rsaPss h := by
  cases h with
  | sha1 => exact absurd rfl hne
  | sha256 => exact ⟨.rsaPssSha256, rfl⟩
  | sha384 => exact ⟨.rsaPssSha384, rfl⟩
  | sha512 => exact ⟨.rsaPssSha512, rfl⟩

theorem ofPssParameters_of_hash {h : HashAlgorithm} (hfield : HashField e.content hash)
    (hoid : hash.oid = h.oid) (hf : a.family = .rsaPss h) :
    ofPssParameters (some e) = .ok a := by
  unfold ofPssParameters
  simp only [pssHash?_of_hashField hfield, hoid]
  have hne := ne_sha1_of_family hf
  cases h with
  | sha1 => exact absurd rfl hne
  | sha256 => rw [family_injective (a := a) (b := .rsaPssSha256) hf]; rfl
  | sha384 => rw [family_injective (a := a) (b := .rsaPssSha384) hf]; rfl
  | sha512 => rw [family_injective (a := a) (b := .rsaPssSha512) hf]; rfl

theorem ofPssParameters_of_otherHash (hfield : HashField e.content hash)
    (hother : ∀ h : HashAlgorithm, h ≠ .sha1 → hash.oid ≠ h.oid) :
    ofPssParameters (some e) = .error (.unsupportedAlgorithm (.pssHash hash.oid.text)) := by
  have h256 : hash.oid ≠ .sha256 := hother .sha256 (by decide)
  have h384 : hash.oid ≠ .sha384 := hother .sha384 (by decide)
  have h512 : hash.oid ≠ .sha512 := hother .sha512 (by decide)
  unfold ofPssParameters
  simp only [pssHash?_of_hashField hfield, if_neg h256, if_neg h384, if_neg h512]

/-- Why parameters are not resolved. -/
inductive PssFault : Option Element → TrustError → Prop
  | absent : PssFault none (.unsupportedAlgorithm .pssDefaults)
  | noHash {e : Element} (hno : NoHashField e.content) :
      PssFault (some e) (.unsupportedAlgorithm .pssDefaultHash)
  | otherHash {e : Element} {hash : AlgorithmIdentifier} (hfield : HashField e.content hash)
      (hother : ∀ h : HashAlgorithm, h ≠ .sha1 → hash.oid ≠ h.oid) :
      PssFault (some e) (.unsupportedAlgorithm (.pssHash hash.oid.text))
  | unread {e : Element} (hno : ¬ NoHashField e.content)
      (h : ∀ hash, ¬ HashField e.content hash) :
      PssFault (some e) (.certificateParsing (.pssHash e.content))

theorem PssFault.ofPssParameters_eq {parameters : Option Element} (h : PssFault parameters fault) :
    ofPssParameters parameters = .error fault := by
  cases h with
  | absent => rfl
  | noHash hno =>
    unfold ofPssParameters
    simp only [pssHash?_of_noHashField hno]
  | otherHash hfield hother => exact ofPssParameters_of_otherHash hfield hother
  | unread hno h =>
    unfold ofPssParameters
    simp only [pssHash?_of_neither hno h]

/-- Parameters have a fault, or begin with a hash that is supported. -/
theorem pssFault_or_hashField (parameters : Option Element) :
    (∃ fault, PssFault parameters fault) ∨
      ∃ e hash h, parameters = some e ∧ HashField e.content hash ∧ hash.oid = HashAlgorithm.oid h ∧
        h ≠ .sha1 := by
  cases parameters with
  | none => exact Or.inl ⟨_, .absent⟩
  | some e =>
    by_cases hno : NoHashField e.content
    · exact Or.inl ⟨_, .noHash hno⟩
    · by_cases hfield : ∃ hash, HashField e.content hash
      · obtain ⟨hash, hfield⟩ := hfield
        by_cases hoid : ∃ h : HashAlgorithm, h ≠ .sha1 ∧ hash.oid = h.oid
        · obtain ⟨h, hne, hoid⟩ := hoid
          exact Or.inr ⟨e, hash, h, rfl, hfield, hoid, hne⟩
        · exact Or.inl ⟨_, .otherHash hfield fun h hne heq => hoid ⟨h, hne, heq⟩⟩
      · exact Or.inl ⟨_, .unread hno (not_exists.mp hfield)⟩

theorem ofPssParameters_eq_ok_iff {parameters : Option Element} :
    ofPssParameters parameters = .ok a ↔
      ∃ e hash h, parameters = some e ∧ HashField e.content hash ∧ hash.oid = HashAlgorithm.oid h ∧
        a.family = .rsaPss h := by
  constructor
  · intro ha
    rcases pssFault_or_hashField parameters with ⟨fault, hfault⟩ | ⟨e, hash, h, rfl, hfield, hoid, hne⟩
    · rw [hfault.ofPssParameters_eq] at ha
      cases ha
    · obtain ⟨b, hb⟩ := exists_family_rsaPss hne
      rw [ofPssParameters_of_hash hfield hoid hb] at ha
      cases ha
      exact ⟨e, hash, h, rfl, hfield, hoid, hb⟩
  · rintro ⟨e, hash, h, rfl, hfield, hoid, hf⟩
    exact ofPssParameters_of_hash hfield hoid hf

theorem ofPssParameters_eq_error_iff {parameters : Option Element} :
    ofPssParameters parameters = .error fault ↔ PssFault parameters fault := by
  constructor
  · intro he
    rcases pssFault_or_hashField parameters with ⟨fault, hfault⟩ | ⟨e, hash, h, rfl, hfield, hoid, hne⟩
    · rw [hfault.ofPssParameters_eq] at he
      cases he
      exact hfault
    · obtain ⟨b, hb⟩ := exists_family_rsaPss hne
      rw [ofPssParameters_of_hash hfield hoid hb] at he
      cases he
  · exact PssFault.ofPssParameters_eq

theorem ofIdentifier_rsaPss (parameters : Option Element) :
    ofIdentifier ⟨.rsaPss, parameters⟩ = ofPssParameters parameters := rfl

/-! ## Parameters that are read to their end -/

theorem read?_of_sequence? {es : List Element} (h : e.sequence? = some (field :: es)) :
    ∃ rest, Element.read? e.content = some (field, rest) := by
  obtain ⟨content, htag, hall⟩ := Option.bind_eq_some_iff.mp h
  rw [Element.expect?_eq_some_iff.mp htag]
  cases content with
  | nil => cases hall
  | cons b rest =>
    obtain ⟨⟨first, tail⟩, hread, hall⟩ := Option.bind_eq_some_iff.mp hall
    obtain ⟨others, -, hall⟩ := Option.bind_eq_some_iff.mp hall
    cases hall
    exact ⟨tail, hread⟩

theorem next?_of_tag_ne {α : Type} {tag : UInt8} (h : field.tag ≠ tag) (read? : Element → Option α)
    (es : List Element) :
    PssParameters.next? tag read? (field :: es) = some (none, field :: es) := by
  rw [PssParameters.next?, if_neg h]

/-- The hash that parameters declare is the one in front of them, SHA-1 where there is none. -/
theorem hash_of_ofElement? {q : PssParameters} (h : PssParameters.ofElement? e = some q) :
    HashField e.content q.hash ∨ NoHashField e.content ∧ q.hash = PssParameters.sha1 := by
  unfold PssParameters.ofElement? at h
  obtain ⟨es, hes, h⟩ := Option.bind_eq_some_iff.mp h
  obtain ⟨⟨hash, es₁⟩, hhash, h⟩ := Option.bind_eq_some_iff.mp h
  obtain ⟨⟨mask, es₂⟩, hmask, h⟩ := Option.bind_eq_some_iff.mp h
  obtain ⟨⟨saltLength, es₃⟩, hsalt, h⟩ := Option.bind_eq_some_iff.mp h
  obtain ⟨⟨trailer, es₄⟩, htrailer, h⟩ := Option.bind_eq_some_iff.mp h
  simp only at hmask hsalt htrailer h
  split at h
  case isFalse => cases h
  case isTrue hend =>
    cases h
    cases es with
    | nil =>
      cases hhash
      refine Or.inr ⟨fun t rest heq => ?_, rfl⟩
      rw [Element.eq_of_sequence? hes] at heq
      cases heq
    | cons field es =>
      obtain ⟨rest, hread⟩ := read?_of_sequence? hes
      by_cases htag : field.tag = 0xA0
      · rw [PssParameters.next?, if_pos htag] at hhash
        obtain ⟨inner, honly, hhash⟩ := Option.bind_eq_some_iff.mp hhash
        obtain ⟨i, hi, hhash⟩ := Option.bind_eq_some_iff.mp hhash
        cases hhash
        exact Or.inl ⟨field, inner, rest, hread, htag, honly, hi⟩
      · rw [next?_of_tag_ne htag] at hhash
        cases hhash
        obtain ⟨hcontent, hknown, -⟩ := Element.read?_eq_some_iff.mp hread
        refine Or.inr ⟨fun t tail heq => ?_, rfl⟩
        obtain rfl : t = field.tag := (List.cons.inj (heq.symm.trans hcontent)).1
        -- a field with the tag 80 would be left over
        refine ⟨hknown, fun h80 => ?_, htag⟩
        rw [next?_of_tag_ne (by rw [h80]; decide)] at hmask
        cases hmask
        rw [next?_of_tag_ne (by rw [h80]; decide)] at hsalt
        cases hsalt
        rw [next?_of_tag_ne (by rw [h80]; decide)] at htrailer
        cases htrailer
        cases hend

theorem ofPssParameters_of_ofElement? {q : PssParameters}
    (h : PssParameters.ofElement? e = some q) :
    ofPssParameters (some e) = .ok a ↔ ∃ h : HashAlgorithm, q.hash.oid = h.oid ∧ a.family = .rsaPss h := by
  rw [ofPssParameters_eq_ok_iff]
  rcases hash_of_ofElement? h with hfield | ⟨hno, hsha1⟩
  · constructor
    · rintro ⟨e', hash, h, heq, hfield', hoid, hf⟩
      cases heq
      exact ⟨h, hfield.unique hfield' ▸ hoid, hf⟩
    · rintro ⟨h, hoid, hf⟩
      exact ⟨e, q.hash, h, rfl, hfield, hoid, hf⟩
  · constructor
    · rintro ⟨e', hash, h, heq, hfield', -, -⟩
      cases heq
      exact absurd hno hfield'.not_noHashField
    · rintro ⟨h, hoid, hf⟩
      rw [hsha1] at hoid
      have hne := ne_sha1_of_family hf
      cases h with
      | sha1 => exact absurd rfl hne
      | sha256 => exact absurd hoid (by decide)
      | sha384 => exact absurd hoid (by decide)
      | sha512 => exact absurd hoid (by decide)

/-- **RSASSA-PSS is resolved by the hash in front of the parameters.** Everything else is an error, and
an error it stays under every key. Of parameters that are read to their end this is the hash they
declare, so the ones that declare a scheme there is are resolved to it. -/
theorem ofIdentifier_pss (parameters : Option Element) :
    (∀ a, ofIdentifier ⟨.rsaPss, parameters⟩ = .ok a ↔
      ∃ e hash h, parameters = some e ∧ HashField e.content hash ∧ hash.oid = HashAlgorithm.oid h ∧
        a.family = .rsaPss h) ∧
    (∀ fault, ofIdentifier ⟨.rsaPss, parameters⟩ = .error fault ↔ PssFault parameters fault) ∧
    (∀ fault, PssFault parameters fault → ∀ p c key,
      c.signatureAlgorithm = ⟨.rsaPss, parameters⟩ → checkSignature p c key = .error fault) ∧
    (∀ e q, parameters = some e → PssParameters.ofElement? e = some q → ∀ a,
      ofIdentifier ⟨.rsaPss, parameters⟩ = .ok a ↔
        ∃ h : HashAlgorithm, q.hash.oid = h.oid ∧ a.family = .rsaPss h) ∧
    ∀ e q h, parameters = some e → PssParameters.ofElement? e = some q → q.Declares h →
      h ≠ .sha1 →
        ∃ a, a.family = .rsaPss h ∧ ofIdentifier ⟨.rsaPss, parameters⟩ = .ok a := by
  rw [ofIdentifier_rsaPss]
  refine ⟨fun a => ofPssParameters_eq_ok_iff, fun fault => ofPssParameters_eq_error_iff,
    fun fault hfault p c key hc => ?_, ?_, ?_⟩
  · refine checkSignature_of_unresolved ?_ p key
    rw [hc]
    exact hfault.ofPssParameters_eq
  · rintro e q rfl hq a
    exact ofPssParameters_of_ofElement? hq
  · rintro e q h rfl hq hdeclares hne
    obtain ⟨a, ha⟩ := exists_family_rsaPss hne
    exact ⟨a, ha, (ofPssParameters_of_ofElement? hq).mpr ⟨h, hdeclares.hash, ha⟩⟩

/-! ## Two lengths of the salt -/

/-- SHA-256 and MGF1 with SHA-256, then a field for the length of the salt or nothing. -/
def pssSha256 (saltLength : Bytes) : Element :=
  ⟨Der.Tag.sequence, [0xA0, 0x0F, 0x30, 0x0D, 0x06, 0x09, 0x60, 0x86, 0x48, 0x01, 0x65, 0x03, 0x04,
    0x02, 0x01, 0x05, 0x00, 0xA1, 0x1C, 0x30, 0x1A, 0x06, 0x09, 0x2A, 0x86, 0x48, 0x86, 0xF7, 0x0D,
    0x01, 0x01, 0x08, 0x30, 0x0D, 0x06, 0x09, 0x60, 0x86, 0x48, 0x01, 0x65, 0x03, 0x04, 0x02, 0x01,
    0x05, 0x00] ++ saltLength⟩

/-- The salt has 32 octets, as the digest has. -/
def fullSalt : Element := pssSha256 [0xA2, 0x03, 0x02, 0x01, 0x20]

/-- The salt has 20 octets, the length that goes without saying. -/
def shortSalt : Element := pssSha256 []

/-- What `pssSha256` declares. -/
def declaredSha256 (saltLength : Int) : PssParameters :=
  ⟨⟨.sha256, some ⟨0x05, []⟩⟩,
    ⟨.mgf1, some ⟨Der.Tag.sequence,
      [0x06, 0x09, 0x60, 0x86, 0x48, 0x01, 0x65, 0x03, 0x04, 0x02, 0x01, 0x05, 0x00]⟩⟩,
    saltLength, 1⟩

theorem declares_fullSalt : (declaredSha256 32).Declares .sha256 where
  hash := rfl
  mask := rfl
  maskHash := ⟨_, ⟨.sha256, some ⟨0x05, []⟩⟩, rfl, by decide, rfl⟩
  saltLength := rfl
  trailer := rfl

theorem ofIdentifier_fullSalt :
    ∃ a : SignatureAlgorithm, a.family = .rsaPss .sha256 ∧
      ofIdentifier ⟨.rsaPss, some fullSalt⟩ = .ok a := by
  have hread : PssParameters.ofElement? fullSalt = some (declaredSha256 32) := by decide
  exact (ofIdentifier_pss (some fullSalt)).2.2.2.2 fullSalt (declaredSha256 32) .sha256 rfl hread
    declares_fullSalt (by decide)

/-- There is no scheme for a digest of 32 octets with a salt of 20, and yet it is resolved. -/
theorem ofIdentifier_shortSalt :
    ofIdentifier ⟨.rsaPss, some shortSalt⟩ = .ok .rsaPssSha256 ∧
      PssParameters.ofElement? shortSalt = some (declaredSha256 20) ∧
      ¬ ∃ q, PssParameters.ofElement? shortSalt = some q ∧ q.Declares .sha256 := by
  have hread : PssParameters.ofElement? shortSalt = some (declaredSha256 20) := by decide
  refine ⟨by decide, hread, ?_⟩
  rintro ⟨q, hq, hdeclares⟩
  rw [hread] at hq
  cases hq
  exact absurd hdeclares.saltLength (by decide)

end SignatureAlgorithm

end ChainOfTrust
