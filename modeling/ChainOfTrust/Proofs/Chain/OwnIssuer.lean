import ChainOfTrust.Proofs.Chain.Ending

/-!
# A certificate as its own issuer

A scan passes the subject over where it vouches for itself and is no root. It never comes to that: the
hop of a certificate to itself and the test for a root are the same check of the same signature.

* `Arrives visited s` : the climb from `subject` comes to `s`, with the fingerprints `visited`;
* `Tries visited s c rest` : there the scan comes to the candidate `c`, with `rest` still behind it;
* `directScan`, `scan_eq_directScan` : a scan that passes nothing over is the same scan;
* `Tries.accepts_self`, `Tries.rejects_self` : the two ways a certificate fares as its own issuer;
* `validate_never_own_issuer` : what this means for every state of a validation.
-/

namespace ChainOfTrust.Chain

set_option autoImplicit false

section States
variable (p : Provider) (t : Instant) (candidates : List Certificate) (subject : Certificate)

inductive Arrives : List Bytes → Certificate → Prop
  | start : Arrives [subject.fingerprint] subject
  | rise {visited : List Bytes} {s c : Certificate} (before : Arrives visited s)
      (hclimb : ClimbsTo p t candidates s c) (hv : c.fingerprint ∉ visited) :
      Arrives (c.fingerprint :: visited) c

/-- No candidate behind `c` has stopped the scan for `s`. -/
structure Tries (visited : List Bytes) (s c : Certificate) (rest : List Certificate) : Prop where
  arrives : Arrives p t candidates subject visited s
  scanned : ∃ front, candidates.reverse = front ++ c :: rest ∧ firstVoucher p t s front = .ok none

/-- A scan in which the subject is a candidate like any other. -/
def directScan (s : Certificate) : List Certificate → Logged (Option Link)
  | [] => ⟨[], .ok none⟩
  | c :: rest =>
    match validateHop p t s c with
    | .error fault => ⟨[], .error fault⟩
    | .ok .noMatch => directScan s rest
    | .ok (.invalid reason) => (directScan s rest).after [.hopFailed s c reason]
    | .ok .valid => ⟨(isSelfSigned p c).events, linkTo p c⟩

end States

variable {p : Provider} {t : Instant} {candidates rest : List Certificate}
variable {subject s c d : Certificate} {visited : List Bytes} {reason : HopFailure}

/-! ## Scans -/

theorem scan_eq_directScan (s : Certificate) (cs : List Certificate) :
    scan p t s cs = directScan p t s cs := by
  induction cs with
  | nil => rfl
  | cons c rest ih =>
    cases hhop : validateHop p t s c with
    | error fault => rw [scan, directScan, hhop]
    | ok outcome =>
      cases outcome with
      | noMatch =>
        rw [scan, directScan, hhop]
        exact ih
      | invalid reason =>
        rw [scan, directScan, hhop]
        exact congrArg (Logged.after [.hopFailed s c reason]) ih
      | valid => rw [scan_cons_of_valid hhop, directScan, hhop]

theorem ne_of_climbsTo (h : ClimbsTo p t candidates s c) : c ≠ s := by
  rintro rfl
  have hself := isSelfSigned_of_hop_self (validateHop_of_step h.1)
  rw [h.2] at hself
  cases hself

theorem validateHop_self_of_mismatch (hname : s.issuer.agrees s.subject = true)
    (hcheck : checkSignature p s s.publicKey = .ok (some reason)) :
    validateHop p t s s = .ok (.invalid reason) := by
  unfold validateHop
  rw [hname, hcheck]
  rfl

/-! ## States -/

/-- What the climb comes to from here is the outcome of the validation. -/
theorem Arrives.outcome (h : Arrives p t candidates subject visited s) :
    (validate p t subject candidates).outcome = (climb p t candidates visited s).outcome := by
  induction h with
  | start => rfl
  | rise before hclimb hv ih => rw [ih, climb_outcome_of_climbsTo hclimb hv]

namespace Tries

theorem step_of_valid (h : Tries p t candidates subject visited s c rest)
    (hvalid : validateHop p t s c = .ok .valid) : step p t candidates s = .ok (some c) := by
  obtain ⟨front, hsplit, hfront⟩ := h.scanned
  rw [step, hsplit, firstVoucher_append, hfront]
  simp only [firstVoucher, hvalid]

/-- Behind a candidate that does not vouch the scan goes on. -/
theorem next (h : Tries p t candidates subject visited s c (d :: rest))
    (hinvalid : validateHop p t s c = .ok (.invalid reason)) :
    Tries p t candidates subject visited s d rest := by
  obtain ⟨front, hsplit, hfront⟩ := h.scanned
  refine ⟨h.arrives, front ++ [c], by rw [hsplit, List.append_assoc]; rfl, ?_⟩
  rw [firstVoucher_append, hfront]
  simp only [firstVoucher, hinvalid]

theorem scan_outcome_of_invalid (h : Tries p t candidates subject visited s c rest)
    (hinvalid : validateHop p t s c = .ok (.invalid reason)) :
    (scan p t s candidates.reverse).outcome = (scan p t s rest).outcome := by
  obtain ⟨front, hsplit, hfront⟩ := h.scanned
  rw [scan_outcome, scan_outcome, hsplit, firstVoucher_append, hfront]
  simp only [firstVoucher, hinvalid]

/-- A certificate that vouches for itself is a root, and the climb ends there. -/
theorem accepts_self (h : Tries p t candidates subject visited s s rest)
    (hvalid : validateHop p t s s = .ok .valid) :
    (climb p t candidates visited s).outcome = .ok true := by
  rw [climb_outcome, h.step_of_valid hvalid]
  simp only [isSelfSigned_of_hop_self hvalid]

/-- A certificate that bears its issuer's name, but whose signature does not verify under its own key,
is a candidate that fails. -/
theorem rejects_self (h : Tries p t candidates subject visited s s rest)
    (hname : s.issuer.agrees s.subject = true)
    (hcheck : checkSignature p s s.publicKey = .ok (some reason)) :
    scan p t s (s :: rest) = (scan p t s rest).after [.hopFailed s s reason] ∧
      (scan p t s candidates.reverse).outcome = (scan p t s rest).outcome := by
  have hinvalid : validateHop p t s s = .ok (.invalid reason) :=
    validateHop_self_of_mismatch hname hcheck
  refine ⟨?_, h.scan_outcome_of_invalid hinvalid⟩
  rw [scan, hinvalid]

end Tries

/-! ## Validations -/

/-- **No certificate is climbed through as its own issuer.** In every state of a validation, where the
scan comes to the very certificate it is for: if that vouches, it is a root and the validation accepts;
if its signature does not verify under its own key, the hop fails and the scan goes on behind it. It is
never passed over for being the subject. -/
theorem validate_never_own_issuer (p : Provider) (t : Instant) (subject : Certificate)
    (candidates : List Certificate) :
    (∀ visited s c rest, Tries p t candidates subject visited s c rest → c.der = s.der →
      validateHop p t s c = .ok .valid →
        (isSelfSigned p c).outcome = .ok true ∧
          (climb p t candidates visited s).outcome = .ok true ∧
          (validate p t subject candidates).outcome = .ok true) ∧
    (∀ visited s c rest, Tries p t candidates subject visited s c rest →
      validateHop p t s c = .ok .valid → (isSelfSigned p c).outcome = .ok false → c.der ≠ s.der) ∧
    (∀ s cs, scan p t s cs = directScan p t s cs) ∧
    (∀ visited s c, Arrives p t candidates subject visited s → ClimbsTo p t candidates s c →
      c.der ≠ s.der) ∧
    ∀ visited s c rest reason, Tries p t candidates subject visited s c rest → c.der = s.der →
      c.issuer.agrees c.subject = true → checkSignature p c c.publicKey = .ok (some reason) →
        validateHop p t s c = .ok (.invalid reason) ∧
          scan p t s (c :: rest) = (scan p t s rest).after [.hopFailed s c reason] ∧
          (scan p t s candidates.reverse).outcome = (scan p t s rest).outcome ∧
          ∀ d behind, rest = d :: behind → Tries p t candidates subject visited s d behind := by
  refine ⟨fun visited s c rest h hder hvalid => ?_, fun visited s c rest h hvalid hself hder => ?_,
    scan_eq_directScan, fun visited s c _ hclimb hder => ne_of_climbsTo hclimb (Certificate.ext hder),
    fun visited s c rest reason h hder hname hcheck => ?_⟩
  · obtain rfl := Certificate.ext hder
    have hroot := h.accepts_self hvalid
    exact ⟨isSelfSigned_of_hop_self hvalid, hroot, h.arrives.outcome.trans hroot⟩
  · exact ne_of_climbsTo ⟨h.step_of_valid hvalid, hself⟩ (Certificate.ext hder)
  · obtain rfl := Certificate.ext hder
    have hinvalid : validateHop p t c c = .ok (.invalid reason) :=
      validateHop_self_of_mismatch hname hcheck
    obtain ⟨hscan, hout⟩ := h.rejects_self hname hcheck
    refine ⟨hinvalid, hscan, hout, ?_⟩
    rintro d behind rfl
    exact h.next hinvalid

/-! ## A root and a forged root -/

/-- The root with a signature that no key verifies. -/
def forgedRootDer : Bytes := rootDer.dropLast ++ [0xFD]

def forgedRootCertificate : Certificate :=
  (Certificate.ofDer forgedRootDer).toOption.get (by decide +kernel)

theorem validateHop_root :
    validateHop .standard 1600000000000000000 rootCertificate rootCertificate = .ok .valid := by
  have hself := isSelfSigned_root
  rw [isSelfSigned_outcome] at hself
  refine validateHop_eq_valid_iff.mpr ⟨by decide +kernel, ?_, by decide +kernel⟩
  rcases hcheck : checkSignature .standard rootCertificate rootCertificate.publicKey with
    fault | _ | reason
  · rw [hcheck] at hself
    cases hself
  · rfl
  · rw [hcheck] at hself
    cases hself

theorem checkSignature_forgedRoot :
    checkSignature .standard forgedRootCertificate forgedRootCertificate.publicKey =
      .ok (some .signatureMismatch) := by
  decide +kernel

/-- It has the key of the root, and so it vouches for the leaf. -/
theorem climbsTo_forgedRoot :
    ClimbsTo .standard 1600000000000000000 [rootCertificate, forgedRootCertificate] leafCertificate
      forgedRootCertificate := by
  have hhop : validateHop .standard 1600000000000000000 leafCertificate forgedRootCertificate =
      .ok .valid :=
    (validateHop_congr (by decide +kernel) (by decide +kernel)).trans (validateHop_of_step step_leaf)
  refine ⟨?_, ?_⟩
  · show firstVoucher _ _ _ [forgedRootCertificate, rootCertificate] = _
    rw [firstVoucher, hhop]
  · rw [isSelfSigned_outcome, checkSignature_forgedRoot]
    rfl

theorem arrives_forgedRoot :
    Arrives .standard 1600000000000000000 [rootCertificate, forgedRootCertificate] leafCertificate
      [forgedRootCertificate.fingerprint, leafCertificate.fingerprint] forgedRootCertificate :=
  .rise .start climbsTo_forgedRoot (by decide +kernel)

/-- The root is accepted through itself. The climb from the leaf comes to the forged root, which is
not its own issuer, and the scan for it goes on to the root. -/
theorem validate_root_and_forgedRoot :
    (validate .standard 1600000000000000000 rootCertificate [rootCertificate]).outcome = .ok true ∧
      forgedRootCertificate.der ≠ leafCertificate.der ∧
      validateHop .standard 1600000000000000000 forgedRootCertificate forgedRootCertificate =
        .ok (.invalid .signatureMismatch) ∧
      Tries .standard 1600000000000000000 [rootCertificate, forgedRootCertificate] leafCertificate
        [forgedRootCertificate.fingerprint, leafCertificate.fingerprint] forgedRootCertificate
        rootCertificate [] := by
  obtain ⟨haccepts, -, -, -, -⟩ :=
    validate_never_own_issuer .standard 1600000000000000000 rootCertificate [rootCertificate]
  obtain ⟨-, hother, -, -, hrejects⟩ := validate_never_own_issuer .standard 1600000000000000000
    leafCertificate [rootCertificate, forgedRootCertificate]
  have hroot := haccepts _ _ _ [] ⟨.start, [], rfl, rfl⟩ rfl validateHop_root
  have hleaf := hother _ _ forgedRootCertificate [rootCertificate] ⟨.start, [], rfl, rfl⟩
    (validateHop_of_step climbsTo_forgedRoot.1) climbsTo_forgedRoot.2
  have hforged := hrejects _ _ forgedRootCertificate [rootCertificate] _
    ⟨arrives_forgedRoot, [], rfl, rfl⟩ rfl (by decide +kernel) checkSignature_forgedRoot
  exact ⟨hroot.2.2, hleaf, hforged.1, hforged.2.2.2 _ _ rfl⟩

end ChainOfTrust.Chain
