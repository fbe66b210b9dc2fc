import ChainOfTrust.Proofs.Chain.Ending

/-!
# Where errors come from

A validation ends in an error for one of three reasons: the signature algorithm of its subject, that
of an issuer it comes to, or an elliptic curve that is not supported.

* `Resolves c` : the signature algorithm of `c` is supported;
* `Scanned s c` : the scan for `s` comes to the candidate `c`;
* `FaultOrigin s e` : the three places an error `e` comes from;
* `resolves_of_ascent` : the certificates that are climbed to have all been tested for a root, so
  their algorithms are not among them;
* `validate_fault_origin` : an error comes from one of these places, and each of them makes an error.
-/

namespace ChainOfTrust.Chain

set_option autoImplicit false

open SignatureAlgorithm (ofIdentifier IsUndecodablePss OnOtherCurve)

def Resolves (c : Certificate) : Prop := ∃ a, ofIdentifier c.signatureAlgorithm = .ok a

section Origin
variable (p : Provider) (t : Instant) (candidates : List Certificate)

/-- No candidate behind `c` stops the scan for `s`. -/
def Scanned (s c : Certificate) : Prop :=
  ∃ before after, candidates = before ++ c :: after ∧ step p t after s = .ok none

/-- The three places an error comes from. In the last two the climb from `s` has come to `top`. -/
inductive FaultOrigin (s : Certificate) : TrustError → Prop
  | subject {c : Certificate} {e : TrustError} (hc : c ∈ candidates)
      (hname : s.issuer.agrees c.subject = true)
      (hfault : ofIdentifier s.signatureAlgorithm = .error e) : FaultOrigin s e
  | curve {path : List Certificate} {top c : Certificate} {a : SignatureAlgorithm} {curve : Oid}
      (hclimb : Climbed p t candidates [s.fingerprint] s path top)
      (hscan : Scanned p t candidates top c) (hname : top.issuer.agrees c.subject = true)
      (ha : ofIdentifier top.signatureAlgorithm = .ok a) (hecdsa : a.IsEcdsa)
      (hcurve : OnOtherCurve c.publicKey curve) :
      FaultOrigin s (.unsupportedAlgorithm (.curve a.name curve.text))
  | issuer {path : List Certificate} {top c : Certificate} {e : TrustError}
      (hclimb : Climbed p t candidates [s.fingerprint] s path top)
      (hstep : step p t candidates top = .ok (some c))
      (hfault : ofIdentifier c.signatureAlgorithm = .error e) : FaultOrigin s e

end Origin

variable {p : Provider} {t : Instant} {candidates : List Certificate}
variable {s c d top : Certificate} {path : List Certificate} {e : TrustError}

/-! ## Scans -/

theorem step_eq_error_iff :
    step p t candidates s = .error e ↔
      ∃ c, Scanned p t candidates s c ∧ validateHop p t s c = .error e := by
  constructor
  · intro h
    obtain ⟨front, c, back, hsplit, hfront, hfault⟩ := firstVoucher_eq_error_iff.mp h
    refine ⟨c, ⟨back.reverse, front.reverse, ?_, ?_⟩, hfault⟩
    · rw [← List.reverse_reverse candidates, hsplit]
      simp
    · rw [step, List.reverse_reverse]
      exact hfront
  · rintro ⟨c, ⟨before, after, rfl, hafter⟩, hfault⟩
    refine firstVoucher_eq_error_iff.mpr ⟨after.reverse, c, before.reverse, ?_, hafter, hfault⟩
    simp

theorem Scanned.mem (h : Scanned p t candidates s c) : c ∈ candidates := by
  obtain ⟨before, after, rfl, -⟩ := h
  exact List.mem_append_right before List.mem_cons_self

/-- If the algorithm of `s` is not supported, the first candidate with the issuer's name shows it. -/
theorem step_eq_error_of_unresolved (hc : c ∈ candidates)
    (hname : s.issuer.agrees c.subject = true)
    (hfault : ofIdentifier s.signatureAlgorithm = .error e) : step p t candidates s = .error e := by
  have hcheck : ∀ key, checkSignature p s key = .error e := by
    intro key
    exact checkSignature_eq_error_iff.mpr (Or.inl hfault)
  rcases hstep : step p t candidates s with e' | _ | d
  · obtain ⟨d, -, hhop⟩ := step_eq_error_iff.mp hstep
    have hsame := (validateHop_eq_error_iff.mp hhop).2
    rw [hcheck] at hsame
    cases hsame
    rfl
  · obtain ⟨outcome, hhop, -⟩ :=
      firstVoucher_eq_none_iff.mp hstep c (List.mem_reverse.mpr hc)
    rw [validateHop_eq_error_iff.mpr ⟨hname, hcheck c.publicKey⟩] at hhop
    cases hhop
  · have hvalid := (validateHop_eq_valid_iff.mp (validateHop_of_step hstep)).2.1
    rw [hcheck] at hvalid
    cases hvalid

/-! ## Tests for a root -/

theorem isSelfSigned_eq_error_iff :
    (isSelfSigned p c).outcome = .error e ↔ checkSignature p c c.publicKey = .error e := by
  rw [isSelfSigned_outcome]
  cases checkSignature p c c.publicKey with
  | error e' => simp only [Except.map, Except.error.injEq]
  | ok reason => exact iff_of_false nofun nofun

theorem resolves_of_isSelfSigned {b : Bool} (h : (isSelfSigned p c).outcome = .ok b) :
    Resolves c := by
  rcases ha : ofIdentifier c.signatureAlgorithm with e | a
  · rw [isSelfSigned_eq_error_iff.mpr (checkSignature_eq_error_iff.mpr (Or.inl ha))] at h
    cases h
  · exact ⟨a, ha⟩

/-- The key of a certificate that vouches is not what makes its own test fail. -/
theorem unresolved_of_isSelfSigned (hhop : validateHop p t s c = .ok .valid)
    (h : (isSelfSigned p c).outcome = .error e) : ofIdentifier c.signatureAlgorithm = .error e := by
  rcases checkSignature_eq_error_iff.mp (isSelfSigned_eq_error_iff.mp h) with hfault | ⟨a, -, hfault⟩
  · exact hfault
  · obtain ⟨b, scheme, -, hscheme, -⟩ :=
      checkSignature_eq_none_iff.mp (validateHop_eq_valid_iff.mp hhop).2.1
    exact absurd hfault (SignatureAlgorithm.schemeFor_ne_error hscheme e)

theorem resolves_of_ascent (h : Ascent p t candidates s path top) : ∀ c ∈ path, Resolves c := by
  intro c hc
  exact resolves_of_isSelfSigned (h.mem hc).2

/-! ## Origins -/

theorem exists_origin (h : (validate p t s candidates).outcome = .error e) :
    FaultOrigin p t candidates s e := by
  obtain ⟨path, top, hclimb, hending⟩ := climb_ends p t candidates [s.fingerprint] s
  rw [validate, hending] at h
  rcases outcome_endingAt_eq_error_iff.mp h with hstep | ⟨c, hstep, hself⟩
  · obtain ⟨c, hscan, hhop⟩ := step_eq_error_iff.mp hstep
    obtain ⟨hname, hcheck⟩ := validateHop_eq_error_iff.mp hhop
    rcases checkSignature_eq_error_iff.mp hcheck with hfault | ⟨a, ha, hfault⟩
    · -- only the subject has not been tested for a root before
      rcases List.mem_cons.mp hclimb.ascent.top_mem_path with rfl | htop
      · exact .subject hscan.mem hname hfault
      · obtain ⟨a, ha⟩ := resolves_of_ascent hclimb.ascent top htop
        rw [ha] at hfault
        cases hfault
    · obtain ⟨hecdsa, curve, hcurve, rfl⟩ := SignatureAlgorithm.schemeFor_eq_error_iff.mp hfault
      exact .curve hclimb hscan hname ha hecdsa hcurve
  · exact .issuer hclimb hstep (unresolved_of_isSelfSigned (validateHop_of_step hstep) hself)

theorem FaultOrigin.outcome (h : FaultOrigin p t candidates s e) :
    (validate p t s candidates).outcome = .error e := by
  cases h with
  | subject hc hname hfault =>
    have hending : endingAt p t candidates s = .fault e := by
      unfold endingAt
      rw [step_eq_error_of_unresolved hc hname hfault]
    have hstuck : ∀ d, endingAt p t candidates s = .cycle d → d.fingerprint ∈ [s.fingerprint] := by
      intro d hd
      rw [hending] at hd
      cases hd
    rw [validate, climb_outcome_of_stuck hstuck, hending, Ending.outcome]
  | @curve path top c a curve hclimb hscan hname ha hecdsa hcurve =>
    have hkey := SignatureAlgorithm.schemeFor_eq_error_iff.mpr ⟨hecdsa, curve, hcurve, rfl⟩
    have hcheck : checkSignature p top c.publicKey =
        .error (.unsupportedAlgorithm (.curve a.name curve.text)) :=
      checkSignature_eq_error_iff.mpr (Or.inr ⟨a, ha, hkey⟩)
    rw [validate, hclimb.outcome]
    refine outcome_endingAt_eq_error_iff.mpr (Or.inl (step_eq_error_iff.mpr ⟨_, hscan, ?_⟩))
    exact validateHop_eq_error_iff.mpr ⟨hname, hcheck⟩
  | @issuer path top c e hclimb hstep hfault =>
    have hcheck : checkSignature p c c.publicKey = .error e :=
      checkSignature_eq_error_iff.mpr (Or.inl hfault)
    rw [validate, hclimb.outcome]
    refine outcome_endingAt_eq_error_iff.mpr (Or.inr ⟨_, hstep, ?_⟩)
    exact isSelfSigned_eq_error_iff.mpr hcheck

theorem FaultOrigin.kind (h : FaultOrigin p t candidates s e) :
    (∃ f, e = .unsupportedAlgorithm f) ∨
      ∃ c ∈ s :: candidates, ∃ f, IsUndecodablePss c.signatureAlgorithm f ∧
        e = .certificateParsing f := by
  have hof : ∀ c ∈ s :: candidates, ofIdentifier c.signatureAlgorithm = .error e →
      (∃ f, e = .unsupportedAlgorithm f) ∨
        ∃ c ∈ s :: candidates, ∃ f, IsUndecodablePss c.signatureAlgorithm f ∧
          e = .certificateParsing f := by
    intro c hc hfault
    rcases SignatureAlgorithm.ofIdentifier_error hfault with h | ⟨f, hpss, hf⟩
    · exact Or.inl h
    · exact Or.inr ⟨c, hc, f, hpss, hf⟩
  cases h with
  | subject _ _ hfault => exact hof s List.mem_cons_self hfault
  | curve => exact Or.inl ⟨_, rfl⟩
  | issuer _ hstep hfault => exact hof _ (List.mem_cons_of_mem s (mem_of_step hstep)) hfault

/-- Nothing fails where all algorithms are supported, and all curves that an ECDSA signature meets. -/
theorem not_faultOrigin (hresolves : ∀ c ∈ s :: candidates, Resolves c)
    (hcurves : ∀ b ∈ s :: candidates, ∀ c ∈ candidates, b.issuer.agrees c.subject = true →
      ∀ a curve, ofIdentifier b.signatureAlgorithm = .ok a → a.IsEcdsa →
        ¬ OnOtherCurve c.publicKey curve) : ¬ FaultOrigin p t candidates s e := by
  have hno : ∀ c ∈ s :: candidates, ofIdentifier c.signatureAlgorithm ≠ .error e := by
    intro c hc hfault
    obtain ⟨a, ha⟩ := hresolves c hc
    rw [ha] at hfault
    cases hfault
  rintro (⟨_, _, hfault⟩ | ⟨hclimb, hscan, hname, ha, hecdsa, hcurve⟩ | ⟨_, hstep, hfault⟩)
  · exact hno s List.mem_cons_self hfault
  · exact hcurves _ hclimb.ascent.top_mem _ hscan.mem hname _ _ ha hecdsa hcurve
  · exact hno _ (List.mem_cons_of_mem s (mem_of_step hstep)) hfault

/-- **An error has one of three origins**, and never any other. -/
theorem validate_fault_origin (p : Provider) (t : Instant) (s : Certificate)
    (candidates : List Certificate) :
    (∀ e, (validate p t s candidates).outcome = .error e ↔ FaultOrigin p t candidates s e) ∧
    (∀ b c, validateHop p t b c = .ok .valid → ∀ e, (isSelfSigned p c).outcome = .error e →
      ofIdentifier c.signatureAlgorithm = .error e) ∧
    (∀ path top, Climbed p t candidates [s.fingerprint] s path top → ∀ c ∈ path, Resolves c) ∧
    (∀ e, (validate p t s candidates).outcome = .error e →
      (∃ f, e = .unsupportedAlgorithm f) ∨
        ∃ c ∈ s :: candidates, ∃ f, IsUndecodablePss c.signatureAlgorithm f ∧
          e = .certificateParsing f) ∧
    ((∀ c ∈ s :: candidates, Resolves c) →
      (∀ b ∈ s :: candidates, ∀ c ∈ candidates, b.issuer.agrees c.subject = true →
        ∀ a curve, ofIdentifier b.signatureAlgorithm = .ok a → a.IsEcdsa →
          ¬ OnOtherCurve c.publicKey curve) →
      ∃ r, (validate p t s candidates).outcome = .ok r) := by
  refine ⟨fun e => ⟨exists_origin, FaultOrigin.outcome⟩,
    fun b c hhop e h => unresolved_of_isSelfSigned hhop h,
    fun path top h => resolves_of_ascent h.ascent, fun e h => (exists_origin h).kind,
    fun hresolves hcurves => ?_⟩
  rcases hout : (validate p t s candidates).outcome with e | r
  · exact absurd (exists_origin hout) (not_faultOrigin hresolves hcurves)
  · exact ⟨r, rfl⟩

/-! ## A root under an algorithm that is not supported -/

def md5RootDer : Bytes :=
  [0x30, 0x81, 0x96, 0x30, 0x81, 0x80, 0x02, 0x01, 0x04, 0x30, 0x0D, 0x06, 0x09, 0x2A, 0x86, 0x48,
  0x86, 0xF7, 0x0D, 0x01, 0x01, 0x04, 0x05, 0x00, 0x30, 0x0F, 0x31, 0x0D, 0x30, 0x0B, 0x06, 0x03,
  0x55, 0x04, 0x03, 0x0C, 0x04, 0x52, 0x6F, 0x6F, 0x74, 0x30, 0x1E, 0x17, 0x0D, 0x32, 0x30, 0x30,
  0x31, 0x30, 0x31, 0x30, 0x30, 0x30, 0x30, 0x30, 0x30, 0x5A, 0x17, 0x0D, 0x34, 0x39, 0x31, 0x32,
  0x33, 0x31, 0x32, 0x33, 0x35, 0x39, 0x35, 0x39, 0x5A, 0x30, 0x0F, 0x31, 0x0D, 0x30, 0x0B, 0x06,
  0x03, 0x55, 0x04, 0x03, 0x0C, 0x04, 0x52, 0x6F, 0x6F, 0x74, 0x30, 0x2A, 0x30, 0x05, 0x06, 0x03,
  0x2B, 0x65, 0x70, 0x03, 0x21, 0x00, 0xAA, 0x74, 0x92, 0x02, 0xF3, 0x2D, 0xEA, 0xEA, 0x1F, 0xB4,
  0x41, 0x78, 0xF3, 0xB4, 0x12, 0x14, 0x77, 0x12, 0x83, 0x3D, 0x57, 0xB3, 0xF8, 0xD1, 0x35, 0x6C,
  0x6E, 0x41, 0x76, 0xC3, 0x19, 0x20, 0x30, 0x0D, 0x06, 0x09, 0x2A, 0x86, 0x48, 0x86, 0xF7, 0x0D,
  0x01, 0x01, 0x04, 0x05, 0x00, 0x03, 0x02, 0x00, 0x01]

/-- A certificate for CN=Root with the key of `rootCertificate` that says it is signed with MD5. -/
def md5RootCertificate : Certificate :=
  (Certificate.ofDer md5RootDer).toOption.get (by decide +kernel)

theorem step_leaf_md5Root :
    step .standard 1600000000000000000 [md5RootCertificate] leafCertificate =
      .ok (some md5RootCertificate) := by
  have hhop : validateHop .standard 1600000000000000000 leafCertificate md5RootCertificate =
      .ok .valid :=
    (validateHop_congr (by decide +kernel) (by decide +kernel)).trans (validateHop_of_step step_leaf)
  rw [step, List.reverse_singleton, firstVoucher, hhop]

/-- The hop to it is good, but whether it is a root cannot be told. -/
theorem validate_leaf_md5Root :
    (validate .standard 1600000000000000000 leafCertificate [md5RootCertificate]).outcome =
      .error (.unsupportedAlgorithm (.unknown "1.2.840.113549.1.1.4")) := by
  have hself : (isSelfSigned .standard md5RootCertificate).outcome =
      .error (.unsupportedAlgorithm (.unknown "1.2.840.113549.1.1.4")) := by decide +kernel
  have hending : endingAt .standard 1600000000000000000 [md5RootCertificate] leafCertificate =
      .fault (.unsupportedAlgorithm (.unknown "1.2.840.113549.1.1.4")) := by
    unfold endingAt
    rw [step_leaf_md5Root]
    simp only [hself]
  have hclimb : Climbed .standard 1600000000000000000 [md5RootCertificate]
      [leafCertificate.fingerprint] leafCertificate [] leafCertificate := by
    refine .here fun c hc => ?_
    rw [hending] at hc
    cases hc
  have horigin : FaultOrigin .standard 1600000000000000000 [md5RootCertificate] leafCertificate
      (.unsupportedAlgorithm (.unknown "1.2.840.113549.1.1.4")) :=
    .issuer hclimb step_leaf_md5Root
      (unresolved_of_isSelfSigned (validateHop_of_step step_leaf_md5Root) hself)
  have hfaults := validate_fault_origin .standard 1600000000000000000 leafCertificate
    [md5RootCertificate]
  exact (hfaults.1 _).mpr horigin

end ChainOfTrust.Chain
