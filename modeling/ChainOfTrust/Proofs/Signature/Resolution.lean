import Mathlib.Logic.Basic
import Mathlib.Tactic.ByContra
import Mathlib.Tactic.SplitIfs
import ChainOfTrust.Signature.Check

/-!
# Signature checks by algorithm and key

A check resolves the certificate's algorithm, then the scheme in which the key carries it, and only
then looks at the signature.

* `identifiers` : the identifiers that stand for one algorithm, `ofIdentifier_eq_ok_iff` : these are
  resolved, and that of RSASSA-PSS by its parameters, and no others;
* `ofIdentifier_error` : an identifier that is not resolved is not supported, or is one of RSASSA-PSS
  whose parameters cannot be read;
* `schemeFor_eq_error_iff` : the only keys that cause an error are those on another curve, and only
  under ECDSA;
* `checkSignature_eq_none_iff` : what it takes for a signature to verify;
* `checkSignature_eq_error_iff` : the two places an error comes from;
* `schemeFor_ne_error` : a key that carries one algorithm is no cause of an error under any other, so
  `checkSignature_ne_error` holds of a certificate and a key that both took part in a good signature.
-/

namespace ChainOfTrust

set_option autoImplicit false

namespace SignatureAlgorithm
open X509 (AlgorithmIdentifier PublicKey)

variable {a b : SignatureAlgorithm} {key : PublicKey} {s : Scheme} {fault : TrustError}

/-! ## Identifiers -/

/-- An RSASSA-PSS identifier with parameters in which the hash cannot be read. -/
def IsUndecodablePss (i : AlgorithmIdentifier) (fault : CertificateFault) : Prop :=
  i.oid = .rsaPss ∧ ∃ parameters, i.parameters = some parameters ∧
    pssHash? parameters.content = .error fault

theorem ofPssParameters_error {parameters : Option Der.Element}
    (h : ofPssParameters parameters = .error fault) :
    (∃ f, fault = .unsupportedAlgorithm f) ∨
      ∃ e f, parameters = some e ∧ pssHash? e.content = .error f ∧ fault = .certificateParsing f := by
  cases parameters with
  | none =>
    cases h
    exact Or.inl ⟨_, rfl⟩
  | some e =>
    unfold ofPssParameters at h
    split at h
    · rename_i heq
      cases heq
    · rename_i parameters heq
      obtain rfl := Option.some.inj heq
      rcases hhash : pssHash? e.content with f | _ | hash
      · rw [hhash] at h
        cases h
        exact Or.inr ⟨e, f, rfl, hhash, rfl⟩
      · rw [hhash] at h
        cases h
        exact Or.inl ⟨_, rfl⟩
      · rw [hhash] at h
        simp only at h
        split_ifs at h
        cases h
        exact Or.inl ⟨_, rfl⟩

/-- The identifiers that stand for one algorithm each, by their arcs. -/
def identifiers : List (List Nat × SignatureAlgorithm) :=
  [([1, 2, 840, 113549, 1, 1, 5], rsaPkcs1Sha1), ([1, 2, 840, 113549, 1, 1, 11], rsaPkcs1Sha256),
    ([1, 2, 840, 113549, 1, 1, 12], rsaPkcs1Sha384), ([1, 2, 840, 113549, 1, 1, 13], rsaPkcs1Sha512),
    ([1, 2, 840, 10045, 4, 3, 2], ecdsaSha256), ([1, 2, 840, 10045, 4, 3, 3], ecdsaSha384),
    ([1, 3, 101, 112], ed25519)]

/-- The arcs of RSASSA-PSS. -/
def pssArcs : List Nat := [1, 2, 840, 113549, 1, 1, 10]

theorem ofIdentifier_of_mem {arcs : List Nat} (h : (arcs, a) ∈ identifiers)
    (parameters : Option Der.Element) : ofIdentifier ⟨.ofArcs arcs, parameters⟩ = .ok a := by
  have htable : ∀ x ∈ identifiers, ofIdentifier ⟨.ofArcs x.1, parameters⟩ = .ok x.2 := by
    simp only [identifiers, List.forall_mem_cons]
    exact ⟨rfl, rfl, rfl, rfl, rfl, rfl, rfl, nofun⟩
  exact htable (arcs, a) h

/-- An identifier is listed, is that of RSASSA-PSS, or is not supported. -/
theorem ofIdentifier_cases (i : AlgorithmIdentifier) :
    (∃ arcs a, (arcs, a) ∈ identifiers ∧ i.oid = .ofArcs arcs ∧ ofIdentifier i = .ok a) ∨
      (i.oid = .ofArcs pssArcs ∧ ofIdentifier i = ofPssParameters i.parameters) ∨
      ofIdentifier i = .error (.unsupportedAlgorithm (.unknown i.oid.text)) := by
  obtain ⟨oid, parameters⟩ := i
  by_cases hlisted : ∃ arcs a, (arcs, a) ∈ identifiers ∧ oid = .ofArcs arcs
  · obtain ⟨arcs, a, hmem, rfl⟩ := hlisted
    exact Or.inl ⟨arcs, a, hmem, rfl, ofIdentifier_of_mem hmem parameters⟩
  · have hno : ∀ x ∈ identifiers, oid ≠ .ofArcs x.1 := fun x hx heq => hlisted ⟨x.1, x.2, hx, heq⟩
    simp only [identifiers, List.forall_mem_cons] at hno
    obtain ⟨(hsha1 : oid ≠ .sha1WithRsa), (hsha256 : oid ≠ .sha256WithRsa),
      (hsha384 : oid ≠ .sha384WithRsa), (hsha512 : oid ≠ .sha512WithRsa),
      (hecdsa256 : oid ≠ .ecdsaWithSha256), (hecdsa384 : oid ≠ .ecdsaWithSha384),
      (hed25519 : oid ≠ .ed25519), -⟩ := hno
    unfold ofIdentifier
    rw [if_neg hsha1, if_neg hsha256, if_neg hsha384, if_neg hsha512, if_neg hecdsa256,
      if_neg hecdsa384, if_neg hed25519]
    by_cases hpss : oid = .rsaPss
    · exact Or.inr (Or.inl ⟨hpss, if_pos hpss⟩)
    · exact Or.inr (Or.inr (if_neg hpss))

/-- **Which identifiers are resolved, and to what.** -/
theorem ofIdentifier_eq_ok_iff {i : AlgorithmIdentifier} :
    ofIdentifier i = .ok a ↔
      (∃ arcs, (arcs, a) ∈ identifiers ∧ i.oid = .ofArcs arcs) ∨
        i.oid = .ofArcs pssArcs ∧ ofPssParameters i.parameters = .ok a := by
  obtain ⟨oid, parameters⟩ := i
  constructor
  · intro h
    rcases ofIdentifier_cases ⟨oid, parameters⟩ with ⟨arcs, b, hmem, hoid, hb⟩ | ⟨hoid, hpss⟩ | hno
    · cases h.symm.trans hb
      exact Or.inl ⟨arcs, hmem, hoid⟩
    · exact Or.inr ⟨hoid, hpss.symm.trans h⟩
    · cases h.symm.trans hno
  · rintro (⟨arcs, hmem, rfl⟩ | ⟨rfl, hpss⟩)
    · exact ofIdentifier_of_mem hmem parameters
    · exact hpss

theorem ofIdentifier_error {i : AlgorithmIdentifier} (h : ofIdentifier i = .error fault) :
    (∃ f, fault = .unsupportedAlgorithm f) ∨
      ∃ f, IsUndecodablePss i f ∧ fault = .certificateParsing f := by
  rcases ofIdentifier_cases i with ⟨_, _, -, -, hok⟩ | ⟨hoid, hpss⟩ | hno
  · cases h.symm.trans hok
  · rcases ofPssParameters_error (hpss.symm.trans h) with hfault | ⟨e, f, he, hhash, rfl⟩
    · exact Or.inl hfault
    · exact Or.inr ⟨f, ⟨hoid, e, he, hhash⟩, rfl⟩
  · cases h.symm.trans hno
    exact Or.inl ⟨_, rfl⟩

/-! ## Keys -/

/-- The key is an elliptic curve key, on a curve that is supported. -/
def OnSupportedCurve (key : PublicKey) : Prop :=
  key.algorithm.oid = .ecPublicKey ∧
    (namedCurve? key = some .secp256r1 ∨ namedCurve? key = some .secp384r1)

theorem schemeUnder_ne_error (oids : List Oid) (fault : TrustError) :
    schemeUnder oids s key ≠ .error fault := by
  unfold schemeUnder
  exact nofun

theorem oid_mem_of_schemeUnder {oids : List Oid} {s' : Scheme}
    (h : schemeUnder oids s key = .ok (some s')) : key.algorithm.oid ∈ oids := by
  unfold schemeUnder at h
  by_contra hno
  rw [if_neg (by simpa using hno)] at h
  cases h

theorem onSupportedCurve_of_ecdsaFor {hash : HashAlgorithm}
    (h : ecdsaFor a hash key = .ok (some s)) : OnSupportedCurve key := by
  unfold ecdsaFor at h
  split at h
  · cases h
  · rename_i hoid
    refine ⟨not_not.mp hoid, ?_⟩
    split at h
    · cases h
    · rename_i curve hcurve
      rw [hcurve]
      by_cases h256 : curve = .secp256r1
      · exact Or.inl (congrArg some h256)
      · by_cases h384 : curve = .secp384r1
        · exact Or.inr (congrArg some h384)
        · rw [if_neg h256, if_neg h384] at h
          cases h

/-- An elliptic curve key that carries some algorithm is on a supported curve. -/
theorem onSupportedCurve_of_schemeFor (h : b.schemeFor key = .ok (some s))
    (hkey : key.algorithm.oid = .ecPublicKey) : OnSupportedCurve key := by
  have hother : ∀ oids s', schemeUnder oids s' key = .ok (some s) → Oid.ecPublicKey ∈ oids := by
    intro oids s' h'
    exact hkey ▸ oid_mem_of_schemeUnder h'
  cases b
  case ecdsaSha256 => exact onSupportedCurve_of_ecdsaFor h
  case ecdsaSha384 => exact onSupportedCurve_of_ecdsaFor h
  all_goals exact absurd (hother _ _ h) (by decide)

/-! ## Errors -/

/-- Carried by elliptic curve keys. -/
def IsEcdsa (a : SignatureAlgorithm) : Prop := a = .ecdsaSha256 ∨ a = .ecdsaSha384

/-- The key is an elliptic curve key whose parameters name `curve`, which is not supported. -/
structure OnOtherCurve (key : PublicKey) (curve : Oid) : Prop where
  algorithm : key.algorithm.oid = .ecPublicKey
  named : namedCurve? key = some curve
  ne_secp256r1 : curve ≠ .secp256r1
  ne_secp384r1 : curve ≠ .secp384r1

theorem ecdsaFor_eq_error_iff {hash : HashAlgorithm} :
    ecdsaFor a hash key = .error fault ↔
      ∃ curve, OnOtherCurve key curve ∧ fault = .unsupportedAlgorithm (.curve a.name curve.text) := by
  constructor
  · intro h
    unfold ecdsaFor at h
    split_ifs at h with hoid
    split at h
    · cases h
    · rename_i curve hcurve
      split_ifs at h with h256 h384
      cases h
      exact ⟨curve, ⟨not_not.mp hoid, hcurve, h256, h384⟩, rfl⟩
  · rintro ⟨curve, h, rfl⟩
    unfold ecdsaFor
    rw [if_neg (not_not.mpr h.algorithm), h.named]
    simp only [if_neg h.ne_secp256r1, if_neg h.ne_secp384r1]

theorem schemeFor_eq_error_iff :
    a.schemeFor key = .error fault ↔
      a.IsEcdsa ∧
        ∃ curve, OnOtherCurve key curve ∧ fault = .unsupportedAlgorithm (.curve a.name curve.text) := by
  have hother : ∀ oids s, schemeUnder oids s key ≠ .error fault := by
    intro oids s
    exact schemeUnder_ne_error oids fault
  cases a
  case ecdsaSha256 => exact ecdsaFor_eq_error_iff.trans (iff_and_self.mpr fun _ => Or.inl rfl)
  case ecdsaSha384 => exact ecdsaFor_eq_error_iff.trans (iff_and_self.mpr fun _ => Or.inr rfl)
  all_goals exact iff_of_false (hother _ _) (fun h => nomatch h.1)

theorem OnSupportedCurve.not_onOtherCurve (h : OnSupportedCurve key) (curve : Oid) :
    ¬ OnOtherCurve key curve := by
  intro hother
  have hnamed := h.2
  rw [hother.named] at hnamed
  rcases hnamed with h256 | h384
  · exact hother.ne_secp256r1 (Option.some.inj h256)
  · exact hother.ne_secp384r1 (Option.some.inj h384)

/-- A key that carries one algorithm is never the cause of an error under another. -/
theorem schemeFor_ne_error (h : b.schemeFor key = .ok (some s)) (fault : TrustError) :
    a.schemeFor key ≠ .error fault := by
  intro hfault
  obtain ⟨-, curve, hother, -⟩ := schemeFor_eq_error_iff.mp hfault
  exact (onSupportedCurve_of_schemeFor h hother.algorithm).not_onOtherCurve curve hother

end SignatureAlgorithm

/-! ## Checks -/

section Check
open SignatureAlgorithm (ofIdentifier)

variable {p : Provider} {c d : Certificate} {key key' : X509.PublicKey}

theorem checkSignature_eq_error_iff {fault : TrustError} :
    checkSignature p c key = .error fault ↔
      ofIdentifier c.signatureAlgorithm = .error fault ∨
        ∃ a, ofIdentifier c.signatureAlgorithm = .ok a ∧ a.schemeFor key = .error fault := by
  unfold checkSignature
  cases ha : ofIdentifier c.signatureAlgorithm with
  | error e => simp [bind, Except.bind]
  | ok a =>
    cases hs : a.schemeFor key with
    | error e => simp [bind, Except.bind, hs]
    | ok s? => cases s? <;> simp [bind, Except.bind, hs]

theorem checkSignature_eq_none_iff :
    checkSignature p c key = .ok none ↔
      ∃ a s, ofIdentifier c.signatureAlgorithm = .ok a ∧ a.schemeFor key = .ok (some s) ∧
        p.verifies s key.key.octets c.tbs c.signature = true := by
  unfold checkSignature
  cases ha : ofIdentifier c.signatureAlgorithm with
  | error e => simp [bind, Except.bind]
  | ok a =>
    cases hs : a.schemeFor key with
    | error e => simp [bind, Except.bind, hs]
    | ok s? => cases s? <;> simp [bind, Except.bind, hs]

/-- No error where the certificate's signature verifies under some key and the key verifies some
certificate's signature. -/
theorem checkSignature_ne_error (hc : checkSignature p c key' = .ok none)
    (hkey : checkSignature p d key = .ok none) (fault : TrustError) :
    checkSignature p c key ≠ .error fault := by
  obtain ⟨a, -, ha, -, -⟩ := checkSignature_eq_none_iff.mp hc
  obtain ⟨b, s, -, hs, -⟩ := checkSignature_eq_none_iff.mp hkey
  rw [ne_eq, checkSignature_eq_error_iff, ha]
  rintro (h | ⟨a', -, h⟩)
  · cases h
  · exact SignatureAlgorithm.schemeFor_ne_error hs fault h

end Check

end ChainOfTrust
