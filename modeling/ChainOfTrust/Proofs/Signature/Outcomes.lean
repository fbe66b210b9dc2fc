import ChainOfTrust.Crypto.Standard
import ChainOfTrust.Proofs.Certificate.SignedPart
import ChainOfTrust.Proofs.Signature.Resolution

/-!
# The outcomes of a signature check

An algorithm is of a family, with the hash it declares. The family and the identifier of a key decide
whether the key carries the algorithm, and in which scheme. The octets of the key and of the signature
have no part in this: they only decide between a good signature and a mismatch.

* `SignatureAlgorithm.family` : the kind of an algorithm and its hash, which is all that `schemeFor`
  looks at (`schemeFor_eq`);
* `Carries key f s`, `Unfit key f`, `OnOtherCurve key curve` : what a key can be to a family. One of
  these always holds (`carries_or_unfit_or_onOtherCurve`), and `schemeFor` tells them apart;
* `checkSignature_outcomes` : an error, a key that does not fit, or what the provider decides.
-/

namespace ChainOfTrust

set_option autoImplicit false

/-- The kind of an algorithm and the hash it declares. -/
inductive Family where
  | rsaPkcs1 (hash : HashAlgorithm)
  | rsaPss (hash : HashAlgorithm)
  | ecdsa (hash : HashAlgorithm)
  | ed25519
  deriving DecidableEq

namespace SignatureAlgorithm
open X509 (PublicKey)

def family : SignatureAlgorithm → Family
  | .rsaPkcs1Sha1 => .rsaPkcs1 .sha1
  | .rsaPkcs1Sha256 => .rsaPkcs1 .sha256
  | .rsaPkcs1Sha384 => .rsaPkcs1 .sha384
  | .rsaPkcs1Sha512 => .rsaPkcs1 .sha512
  | .rsaPssSha256 => .rsaPss .sha256
  | .rsaPssSha384 => .rsaPss .sha384
  | .rsaPssSha512 => .rsaPss .sha512
  | .ecdsaSha256 => .ecdsa .sha256
  | .ecdsaSha384 => .ecdsa .sha384
  | .ed25519 => .ed25519

theorem family_injective {a b : SignatureAlgorithm} (h : a.family = b.family) : a = b := by
  cases a <;> cases b <;> first | rfl | cases h

variable {a : SignatureAlgorithm} {key : PublicKey} {s : Scheme} {f : Family}
variable {hash : HashAlgorithm}

theorem isEcdsa_iff : a.IsEcdsa ↔ ∃ hash, a.family = .ecdsa hash := by
  cases a <;> simp [IsEcdsa, family]

theorem schemeFor_eq (a : SignatureAlgorithm) (key : PublicKey) :
    a.schemeFor key =
      match a.family with
      | .rsaPkcs1 hash => schemeUnder [.rsaEncryption] (.rsaPkcs1 hash) key
      | .rsaPss hash => schemeUnder [.rsaEncryption, .rsaPss] (.rsaPss hash) key
      | .ecdsa hash => ecdsaFor a hash key
      | .ed25519 => schemeUnder [.ed25519] .ed25519 key := by
  cases a <;> rfl

/-! ## Keys -/

def curveOid : CurveName → Oid
  | .p256 => .secp256r1
  | .p384 => .secp384r1

/-- The key carries algorithms of the family, in the scheme `s`. -/
inductive Carries (key : PublicKey) : Family → Scheme → Prop
  | rsaPkcs1 {hash : HashAlgorithm} (rsa : key.algorithm.oid = .rsaEncryption) :
      Carries key (.rsaPkcs1 hash) (.rsaPkcs1 hash)
  | rsaPss {hash : HashAlgorithm}
      (rsa : key.algorithm.oid = .rsaEncryption ∨ key.algorithm.oid = .rsaPss) :
      Carries key (.rsaPss hash) (.rsaPss hash)
  | ecdsa {hash : HashAlgorithm} {curve : CurveName} {e : Der.Element}
      (elliptic : key.algorithm.oid = .ecPublicKey) (present : key.algorithm.parameters = some e)
      (named : e.oid? = some (curveOid curve)) : Carries key (.ecdsa hash) (.ecdsa curve hash)
  | ed25519 (edwards : key.algorithm.oid = .ed25519) : Carries key .ed25519 .ed25519

/-- The key is of another kind, or an elliptic curve key with no identifier of a curve. -/
inductive Unfit (key : PublicKey) : Family → Prop
  | notRsa {hash : HashAlgorithm} (rsa : key.algorithm.oid ≠ .rsaEncryption) :
      Unfit key (.rsaPkcs1 hash)
  | notRsaPss {hash : HashAlgorithm} (rsa : key.algorithm.oid ≠ .rsaEncryption)
      (pss : key.algorithm.oid ≠ .rsaPss) : Unfit key (.rsaPss hash)
  | notElliptic {hash : HashAlgorithm} (elliptic : key.algorithm.oid ≠ .ecPublicKey) :
      Unfit key (.ecdsa hash)
  | noParameters {hash : HashAlgorithm} (absent : key.algorithm.parameters = none) :
      Unfit key (.ecdsa hash)
  | noIdentifier {hash : HashAlgorithm} {e : Der.Element}
      (present : key.algorithm.parameters = some e) (unread : e.oid? = none) :
      Unfit key (.ecdsa hash)
  | notEd25519 (edwards : key.algorithm.oid ≠ .ed25519) : Unfit key .ed25519

theorem namedCurve?_of_parameters {e : Der.Element} (h : key.algorithm.parameters = some e) :
    namedCurve? key = e.oid? := by
  unfold namedCurve?
  rw [h]
  rfl

theorem namedCurve?_of_none (h : key.algorithm.parameters = none) : namedCurve? key = none := by
  unfold namedCurve?
  rw [h]
  rfl

/-- An elliptic curve key names one of the two curves, another one, or none. -/
theorem elliptic_cases (hash : HashAlgorithm) (elliptic : key.algorithm.oid = .ecPublicKey) :
    (∃ s, Carries key (.ecdsa hash) s) ∨ Unfit key (.ecdsa hash) ∨
      ∃ curve, OnOtherCurve key curve := by
  rcases hp : key.algorithm.parameters with _ | e
  · exact Or.inr (Or.inl (.noParameters hp))
  · rcases hread : e.oid? with _ | curve
    · exact Or.inr (Or.inl (.noIdentifier hp hread))
    · by_cases h256 : curve = .secp256r1
      · have hnamed : e.oid? = some (curveOid .p256) := by rw [hread, h256, curveOid]
        exact Or.inl ⟨_, .ecdsa elliptic hp hnamed⟩
      · by_cases h384 : curve = .secp384r1
        · have hnamed : e.oid? = some (curveOid .p384) := by rw [hread, h384, curveOid]
          exact Or.inl ⟨_, .ecdsa elliptic hp hnamed⟩
        · have hnamed := (namedCurve?_of_parameters hp).trans hread
          exact Or.inr (Or.inr ⟨curve, elliptic, hnamed, h256, h384⟩)

theorem carries_or_unfit_or_onOtherCurve (key : PublicKey) (f : Family) :
    (∃ s, Carries key f s) ∨ Unfit key f ∨
      ∃ hash curve, f = .ecdsa hash ∧ OnOtherCurve key curve := by
  by_cases hrsa : key.algorithm.oid = .rsaEncryption
  case pos =>
    cases f with
    | rsaPkcs1 hash => exact Or.inl ⟨_, .rsaPkcs1 hrsa⟩
    | rsaPss hash => exact Or.inl ⟨_, .rsaPss (Or.inl hrsa)⟩
    | ecdsa hash => exact Or.inr (Or.inl (.notElliptic (by rw [hrsa]; decide)))
    | ed25519 => exact Or.inr (Or.inl (.notEd25519 (by rw [hrsa]; decide)))
  case neg =>
    cases f with
    | rsaPkcs1 hash => exact Or.inr (Or.inl (.notRsa hrsa))
    | rsaPss hash =>
      by_cases hpss : key.algorithm.oid = .rsaPss
      · exact Or.inl ⟨_, .rsaPss (Or.inr hpss)⟩
      · exact Or.inr (Or.inl (.notRsaPss hrsa hpss))
    | ecdsa hash =>
      by_cases helliptic : key.algorithm.oid = .ecPublicKey
      · rcases elliptic_cases hash helliptic with h | h | ⟨curve, h⟩
        · exact Or.inl h
        · exact Or.inr (Or.inl h)
        · exact Or.inr (Or.inr ⟨hash, curve, rfl, h⟩)
      · exact Or.inr (Or.inl (.notElliptic helliptic))
    | ed25519 =>
      by_cases hedwards : key.algorithm.oid = .ed25519
      · exact Or.inl ⟨_, .ed25519 hedwards⟩
      · exact Or.inr (Or.inl (.notEd25519 hedwards))

/-! ## Schemes -/

theorem schemeUnder_of_mem {oids : List Oid} (h : key.algorithm.oid ∈ oids) :
    schemeUnder oids s key = .ok (some s) := by
  unfold schemeUnder
  rw [if_pos (List.contains_iff_mem.mpr h)]

theorem schemeUnder_of_notMem {oids : List Oid} (h : key.algorithm.oid ∉ oids) :
    schemeUnder oids s key = .ok none := by
  unfold schemeUnder
  rw [if_neg (mt List.contains_iff_mem.mp h)]

theorem ecdsaFor_of_none (h : key.algorithm.oid ≠ .ecPublicKey ∨ namedCurve? key = none) :
    ecdsaFor a hash key = .ok none := by
  unfold ecdsaFor
  by_cases helliptic : key.algorithm.oid = .ecPublicKey
  · rw [if_neg (not_not.mpr helliptic), h.resolve_left (not_not.mpr helliptic)]
  · rw [if_pos helliptic]

theorem ecdsaFor_of_named {curve : CurveName} (elliptic : key.algorithm.oid = .ecPublicKey)
    (h : namedCurve? key = some (curveOid curve)) :
    ecdsaFor a hash key = .ok (some (.ecdsa curve hash)) := by
  unfold ecdsaFor
  rw [if_neg (not_not.mpr elliptic), h]
  cases curve <;> rfl

theorem schemeFor_of_carries (h : Carries key a.family s) : a.schemeFor key = .ok (some s) := by
  rw [schemeFor_eq]
  generalize a.family = f at h
  cases h with
  | rsaPkcs1 rsa => exact schemeUnder_of_mem (List.mem_singleton.mpr rsa)
  | rsaPss rsa => exact schemeUnder_of_mem (by simpa using rsa)
  | ecdsa elliptic present named =>
    exact ecdsaFor_of_named elliptic ((namedCurve?_of_parameters present).trans named)
  | ed25519 edwards => exact schemeUnder_of_mem (List.mem_singleton.mpr edwards)

theorem schemeFor_of_unfit (h : Unfit key a.family) : a.schemeFor key = .ok none := by
  rw [schemeFor_eq]
  generalize a.family = f at h
  cases h with
  | notRsa rsa => exact schemeUnder_of_notMem (mt List.mem_singleton.mp rsa)
  | notRsaPss rsa pss => exact schemeUnder_of_notMem (by simpa using ⟨rsa, pss⟩)
  | notElliptic elliptic => exact ecdsaFor_of_none (Or.inl elliptic)
  | noParameters absent => exact ecdsaFor_of_none (Or.inr (namedCurve?_of_none absent))
  | noIdentifier present unread =>
    exact ecdsaFor_of_none (Or.inr ((namedCurve?_of_parameters present).trans unread))
  | notEd25519 edwards => exact schemeUnder_of_notMem (mt List.mem_singleton.mp edwards)

theorem schemeFor_of_onOtherCurve {curve : Oid} (hf : a.family = .ecdsa hash)
    (h : OnOtherCurve key curve) :
    a.schemeFor key = .error (.unsupportedAlgorithm (.curve a.name curve.text)) :=
  schemeFor_eq_error_iff.mpr ⟨isEcdsa_iff.mpr ⟨hash, hf⟩, curve, h, rfl⟩

theorem schemeFor_eq_some_iff : a.schemeFor key = .ok (some s) ↔ Carries key a.family s := by
  refine ⟨fun hs => ?_, schemeFor_of_carries⟩
  rcases carries_or_unfit_or_onOtherCurve key a.family with ⟨s', h⟩ | h | ⟨hash, curve, hf, h⟩
  · rw [schemeFor_of_carries h] at hs
    cases hs
    exact h
  · rw [schemeFor_of_unfit h] at hs
    cases hs
  · rw [schemeFor_of_onOtherCurve hf h] at hs
    cases hs

theorem schemeFor_eq_none_iff : a.schemeFor key = .ok none ↔ Unfit key a.family := by
  refine ⟨fun hs => ?_, schemeFor_of_unfit⟩
  rcases carries_or_unfit_or_onOtherCurve key a.family with ⟨s, h⟩ | h | ⟨hash, curve, hf, h⟩
  · rw [schemeFor_of_carries h] at hs
    cases hs
  · exact h
  · rw [schemeFor_of_onOtherCurve hf h] at hs
    cases hs

end SignatureAlgorithm

/-! ## Checks -/

section Check
open SignatureAlgorithm (ofIdentifier Carries Unfit OnOtherCurve)

variable {p : Provider} {c : Certificate} {key : X509.PublicKey} {a : SignatureAlgorithm}

theorem checkSignature_of_unresolved {fault : TrustError}
    (h : ofIdentifier c.signatureAlgorithm = .error fault) (p : Provider) (key : X509.PublicKey) :
    checkSignature p c key = .error fault :=
  checkSignature_eq_error_iff.mpr (Or.inl h)

/-- What is left of a check once the algorithm is known. -/
theorem checkSignature_of_ok (h : ofIdentifier c.signatureAlgorithm = .ok a) :
    checkSignature p c key =
      match a.schemeFor key with
      | .error fault => .error fault
      | .ok none => .ok (some (.incompatibleKey a.name))
      | .ok (some s) =>
        .ok (if p.verifies s key.key.octets c.tbs c.signature then none
          else some .signatureMismatch) := by
  unfold checkSignature
  rw [h]
  rcases hs : a.schemeFor key with fault | _ | s <;> simp [bind, Except.bind, hs]

theorem checkSignature_eq_some_iff {reason : HopFailure} :
    checkSignature p c key = .ok (some reason) ↔
      ∃ a, ofIdentifier c.signatureAlgorithm = .ok a ∧
        (Unfit key a.family ∧ reason = .incompatibleKey a.name ∨
          ∃ s, Carries key a.family s ∧
            p.verifies s key.key.octets c.tbs c.signature = false ∧ reason = .signatureMismatch) := by
  constructor
  · intro h
    rcases ha : ofIdentifier c.signatureAlgorithm with fault | a
    · rw [checkSignature_of_unresolved ha] at h
      cases h
    · rw [checkSignature_of_ok ha] at h
      rcases hs : a.schemeFor key with fault | _ | s
      · rw [hs] at h
        cases h
      · rw [hs] at h
        cases h
        exact ⟨a, rfl, Or.inl ⟨SignatureAlgorithm.schemeFor_eq_none_iff.mp hs, rfl⟩⟩
      · rw [hs] at h
        simp only [Except.ok.injEq] at h
        split at h
        · cases h
        · rename_i hv
          cases h
          have hcarries := SignatureAlgorithm.schemeFor_eq_some_iff.mp hs
          exact ⟨a, rfl, Or.inr ⟨s, hcarries, Bool.eq_false_of_not_eq_true hv, rfl⟩⟩
  · rintro ⟨a, ha, ⟨hunfit, rfl⟩ | ⟨s, hcarries, hv, rfl⟩⟩
    · rw [checkSignature_of_ok ha, SignatureAlgorithm.schemeFor_of_unfit hunfit]
    · rw [checkSignature_of_ok ha, SignatureAlgorithm.schemeFor_of_carries hcarries]
      simp only [hv, Bool.false_eq_true, if_false]

/-- **A check has four outcomes**: an error, which the certificate alone or the curve of the key
causes; a key that does not fit; a mismatch; a good signature. The provider is asked only under a
scheme in which the key carries the algorithm. -/
theorem checkSignature_outcomes (p : Provider) (c : Certificate) (key : X509.PublicKey) :
    (∀ fault, checkSignature p c key = .error fault ↔
      ofIdentifier c.signatureAlgorithm = .error fault ∨
        ∃ a hash curve, ofIdentifier c.signatureAlgorithm = .ok a ∧ a.family = .ecdsa hash ∧
          OnOtherCurve key curve ∧ fault = .unsupportedAlgorithm (.curve a.name curve.text)) ∧
    (∀ fault, ofIdentifier c.signatureAlgorithm = .error fault →
      ∀ p' key', checkSignature p' c key' = .error fault) ∧
    (∀ name, checkSignature p c key = .ok (some (.incompatibleKey name)) ↔
      ∃ a, ofIdentifier c.signatureAlgorithm = .ok a ∧ Unfit key a.family ∧ name = a.name) ∧
    (checkSignature p c key = .ok (some .signatureMismatch) ↔
      ∃ a s, ofIdentifier c.signatureAlgorithm = .ok a ∧ Carries key a.family s ∧
        p.verifies s key.key.octets c.tbs c.signature = false) ∧
    (checkSignature p c key = .ok none ↔
      ∃ a s, ofIdentifier c.signatureAlgorithm = .ok a ∧ Carries key a.family s ∧
        p.verifies s key.key.octets c.tbs c.signature = true) ∧
    ∀ reason, checkSignature p c key = .ok (some reason) →
      reason = .signatureMismatch ∨ ∃ name, reason = .incompatibleKey name := by
  refine ⟨fun fault => ?_, fun fault h p' key' => checkSignature_of_unresolved h p' key',
    fun name => ?_, ?_, ?_, fun reason h => ?_⟩
  · rw [checkSignature_eq_error_iff]
    refine or_congr_right ⟨?_, ?_⟩
    · rintro ⟨a, ha, hs⟩
      obtain ⟨hecdsa, curve, hcurve, rfl⟩ := SignatureAlgorithm.schemeFor_eq_error_iff.mp hs
      obtain ⟨hash, hf⟩ := SignatureAlgorithm.isEcdsa_iff.mp hecdsa
      exact ⟨a, hash, curve, ha, hf, hcurve, rfl⟩
    · rintro ⟨a, hash, curve, ha, hf, hcurve, rfl⟩
      exact ⟨a, ha, SignatureAlgorithm.schemeFor_of_onOtherCurve hf hcurve⟩
  · rw [checkSignature_eq_some_iff]
    constructor
    · rintro ⟨a, ha, ⟨hunfit, hname⟩ | ⟨s, -, -, hname⟩⟩
      · cases hname
        exact ⟨a, ha, hunfit, rfl⟩
      · cases hname
    · rintro ⟨a, ha, hunfit, rfl⟩
      exact ⟨a, ha, Or.inl ⟨hunfit, rfl⟩⟩
  · rw [checkSignature_eq_some_iff]
    constructor
    · rintro ⟨a, ha, ⟨-, hname⟩ | ⟨s, hcarries, hv, -⟩⟩
      · cases hname
      · exact ⟨a, s, ha, hcarries, hv⟩
    · rintro ⟨a, s, ha, hcarries, hv⟩
      exact ⟨a, ha, Or.inr ⟨s, hcarries, hv, rfl⟩⟩
  · simp only [checkSignature_eq_none_iff, SignatureAlgorithm.schemeFor_eq_some_iff]
  · obtain ⟨a, -, ⟨-, rfl⟩ | ⟨s, -, -, rfl⟩⟩ := checkSignature_eq_some_iff.mp h
    · exact Or.inr ⟨a.name, rfl⟩
    · exact Or.inl rfl

end Check

/-! ## A key on another curve -/

/-- An elliptic curve key on secp521r1, with an empty point. -/
def p521Key : X509.PublicKey :=
  ⟨⟨.ecPublicKey, some ⟨Der.Tag.oid, [0x2B, 0x81, 0x04, 0x00, 0x23]⟩⟩, ⟨0, []⟩⟩

/-- To an Ed25519 signature the curve does not matter. -/
theorem checkSignature_leaf_p521Key :
    checkSignature .standard leafCertificate p521Key = .ok (some (.incompatibleKey "Ed25519")) := by
  have hleaf : SignatureAlgorithm.ofIdentifier leafCertificate.signatureAlgorithm = .ok .ed25519 := by
    decide +kernel
  have houtcomes := checkSignature_outcomes .standard leafCertificate p521Key
  exact (houtcomes.2.2.1 _).mpr ⟨.ed25519, hleaf, .notEd25519 (by decide), rfl⟩

end ChainOfTrust
