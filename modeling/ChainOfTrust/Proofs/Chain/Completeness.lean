import ChainOfTrust.Proofs.Chain.Guard

/-!
# Completeness of the climb

A validation commits to the first certificate that vouches and never comes back to try another.

* `Unambiguous` : no certificate has two issuers among the candidates, and no check fails outright;
* `Linked s cs root` : a chain of good hops from `s` through candidates, up to a self-signed one;
* `step_eq_of_unambiguous` : then a step finds the issuer that there is, whatever the order;
* `validate_outcome_iff_linked` : then a validation finds a chain if there is one, be it a chain that
  repeats certificates or goes on after a root.
-/

namespace ChainOfTrust.Chain

set_option autoImplicit false

section Spec
variable (p : Provider) (t : Instant) (candidates : List Certificate)

structure Unambiguous (subject : Certificate) : Prop where
  issuer : ∀ s ∈ subject :: candidates, ∀ c ∈ candidates, ∀ d ∈ candidates,
    validateHop p t s c = .ok .valid → validateHop p t s d = .ok .valid → c.der = d.der
  checked : ∀ s ∈ subject :: candidates, ∀ c ∈ candidates, s.issuer.agrees c.subject = true →
    ∀ e, checkSignature p s c.publicKey ≠ .error e
  tested : ∀ c ∈ candidates, ∀ e, (isSelfSigned p c).outcome ≠ .error e

/-- The certificates of `cs`, then `root`, each vouch for the one before, the first of them for `s`. -/
def Linked (s : Certificate) (cs : List Certificate) (root : Certificate) : Prop :=
  (∀ c ∈ cs ++ [root], c ∈ candidates) ∧
    List.IsChain (fun a b => validateHop p t a b = .ok .valid) (s :: (cs ++ [root])) ∧
    (isSelfSigned p root).outcome = .ok true

end Spec

variable {p : Provider} {t : Instant} {candidates cs path : List Certificate}
variable {subject s c root : Certificate} {e : TrustError}

/-! ## Steps -/

theorem Unambiguous.validateHop_ne_error (h : Unambiguous p t candidates subject)
    (hs : s ∈ subject :: candidates) (hc : c ∈ candidates) : validateHop p t s c ≠ .error e := by
  intro hfault
  obtain ⟨hname, hcheck⟩ := validateHop_eq_error_iff.mp hfault
  exact h.checked s hs c hc hname e hcheck

theorem Unambiguous.step_ne_error (h : Unambiguous p t candidates subject)
    (hs : s ∈ subject :: candidates) : step p t candidates s ≠ .error e := by
  intro hstep
  obtain ⟨c, hc, hfault⟩ := exists_of_firstVoucher_error hstep
  exact h.validateHop_ne_error hs (List.mem_reverse.mp hc) hfault

theorem step_eq_of_unambiguous (h : Unambiguous p t candidates subject)
    (hs : s ∈ subject :: candidates) (hc : c ∈ candidates)
    (hvalid : validateHop p t s c = .ok .valid) : step p t candidates s = .ok (some c) := by
  rcases hstep : step p t candidates s with e | _ | d
  · exact absurd hstep (h.step_ne_error hs)
  · exact absurd hstep (firstVoucher_ne_none (List.mem_reverse.mpr hc) hvalid)
  · obtain rfl : d = c := Certificate.ext
      (h.issuer s hs d (mem_of_step hstep) c hc (validateHop_of_step hstep) hvalid)
    rfl

/-! ## Chains -/

theorem ReachesRoot.climb (hclimb : ClimbsTo p t candidates s c)
    (h : ReachesRoot p t candidates c path root) : ReachesRoot p t candidates s (c :: path) root := by
  obtain ⟨top, h, hstep, hself⟩ := h
  exact ⟨top, .climb hclimb h, hstep, hself⟩

theorem ReachesRoot.linked (h : ReachesRoot p t candidates s path root) :
    Linked p t candidates s path root := by
  refine ⟨h.mem, h.isChain, ?_⟩
  obtain ⟨top, -, -, hself⟩ := h
  exact hself

/-- The walk follows a chain up to the first root on it. -/
theorem reachesRoot_of_linked (h : Unambiguous p t candidates subject)
    (hs : s ∈ subject :: candidates) (hlinked : Linked p t candidates s cs root) :
    ∃ path top, ReachesRoot p t candidates s path top := by
  induction cs generalizing s with
  | nil =>
    obtain ⟨hmem, hchain, hself⟩ := hlinked
    have hroot : root ∈ candidates := hmem root (by simp)
    have hvalid := (List.isChain_cons_cons.mp hchain).1
    exact ⟨[], root, s, .refl s, step_eq_of_unambiguous h hs hroot hvalid, hself⟩
  | cons c cs ih =>
    obtain ⟨hmem, hchain, hself⟩ := hlinked
    have hc : c ∈ candidates := hmem c (by simp)
    obtain ⟨hvalid, hrest⟩ := List.isChain_cons_cons.mp hchain
    have hstep := step_eq_of_unambiguous h hs hc hvalid
    rcases hcself : (isSelfSigned p c).outcome with e | _ | _
    · exact absurd hcself (h.tested c hc e)
    · obtain ⟨path, top, hpath⟩ := ih (List.mem_cons_of_mem _ hc)
        ⟨fun d hd => hmem d (List.mem_cons_of_mem _ hd), hrest, hself⟩
      exact ⟨c :: path, top, hpath.climb ⟨hstep, hcself⟩⟩
    · exact ⟨[], c, s, .refl s, hstep, hcself⟩

theorem Unambiguous.not_fails (h : Unambiguous p t candidates subject) :
    ¬ Fails p t candidates subject e := by
  rintro ⟨path, top, hpath, -, hfault⟩
  have htop : top ∈ subject :: candidates := hpath.top_mem
  rcases hfault with hstep | ⟨c, hstep, -, hself⟩
  · exact h.step_ne_error htop hstep
  · exact h.tested c (mem_of_step hstep) e hself

/-! ## Validations -/

theorem validate_outcome_eq_true_iff_linked (h : Unambiguous p t candidates subject)
    (hC : Distinguished (subject :: candidates)) :
    (validate p t subject candidates).outcome = .ok true ↔
      ∃ cs root, Linked p t candidates subject cs root := by
  rw [validate_outcome_iff hC, fate_true_iff]
  constructor
  · rintro ⟨path, root, hpath⟩
    exact ⟨path, root, hpath.linked⟩
  · rintro ⟨cs, root, hlinked⟩
    exact reachesRoot_of_linked h List.mem_cons_self hlinked

theorem validate_outcome_ne_error (h : Unambiguous p t candidates subject)
    (hC : Distinguished (subject :: candidates)) :
    (validate p t subject candidates).outcome ≠ .error e := by
  rw [Ne, validate_outcome_iff hC, fate_error_iff]
  exact h.not_fails

/-- **A validation finds a chain where there is one**, if no certificate has two issuers. -/
theorem validate_outcome_iff_linked (h : Unambiguous p t candidates subject)
    (hC : Distinguished (subject :: candidates)) :
    ((validate p t subject candidates).outcome = .ok true ↔
      ∃ cs root, Linked p t candidates subject cs root) ∧
    ((validate p t subject candidates).outcome = .ok false ↔
      ¬ ∃ cs root, Linked p t candidates subject cs root) := by
  have htrue := validate_outcome_eq_true_iff_linked h hC
  refine ⟨htrue, ?_⟩
  rw [← htrue]
  rcases hout : (validate p t subject candidates).outcome with e | _ | _
  · exact absurd hout (validate_outcome_ne_error h hC)
  · simp
  · simp

/-! ## A crowded store -/

/-- Of the candidates that bear the issuer's name, one vouches. -/
theorem eq_of_hop_crowded (hs : s ∈ serverCertificate :: crowdedStore) (hc : c ∈ crowdedStore)
    (hvalid : validateHop .standard september s c = .ok .valid) :
    c = if s = serverCertificate then middleCertificate else rootCertificate := by
  have hname := (validateHop_eq_valid_iff.mp hvalid).1
  by_cases hserver : s = serverCertificate
  · rw [if_pos hserver]
    rw [hserver] at hvalid hname
    have hcases : ∀ c ∈ crowdedStore, serverCertificate.issuer.agrees c.subject = true →
        c = middleCertificate ∨ c = strangerCertificate := by
      decide +kernel
    rcases hcases c hc hname with hmiddle | hstranger
    · exact hmiddle
    · rw [hstranger, hops_crowdedStore.1] at hvalid
      cases hvalid
  · rw [if_neg hserver]
    have hcases : ∀ s ∈ crowdedStore, ∀ c ∈ crowdedStore, s.issuer.agrees c.subject = true →
        c = rootCertificate := by
      decide +kernel
    exact hcases s (List.mem_of_ne_of_mem hserver hs) c hc hname

/-- Ed25519 is supported, whatever the key. -/
theorem checkSignature_crowded (hs : s ∈ serverCertificate :: crowdedStore) (key : X509.PublicKey) :
    checkSignature .standard s key ≠ .error e := by
  have hresolves : ∀ s ∈ serverCertificate :: crowdedStore,
      SignatureAlgorithm.ofIdentifier s.signatureAlgorithm = .ok .ed25519 := by
    decide +kernel
  intro hfault
  rcases checkSignature_eq_error_iff.mp hfault with hunknown | ⟨a, ha, hscheme⟩
  · rw [hresolves s hs] at hunknown
    cases hunknown
  · rw [hresolves s hs] at ha
    cases ha
    exact SignatureAlgorithm.schemeUnder_ne_error _ e hscheme

theorem unambiguous_server : Unambiguous .standard september crowdedStore serverCertificate where
  issuer s hs c hc d hd hsc hsd := by
    rw [eq_of_hop_crowded hs hc hsc, eq_of_hop_crowded hs hd hsd]
  checked s hs c _ _ e := checkSignature_crowded hs c.publicKey
  tested c hc e hfault := by
    rw [isSelfSigned_outcome] at hfault
    rcases hcheck : checkSignature .standard c c.publicKey with e | reason
    · exact checkSignature_crowded (List.mem_cons_of_mem _ hc) c.publicKey hcheck
    · rw [hcheck] at hfault
      cases hfault

/-- The chain is found that goes through a candidate kept twice, past one that has only its name. -/
theorem validate_server_iff_linked :
    Unambiguous .standard september crowdedStore serverCertificate ∧
      Distinguished (serverCertificate :: crowdedStore) ∧
      (validate .standard september serverCertificate crowdedStore).outcome = .ok true := by
  refine ⟨unambiguous_server, distinguished_server, ?_⟩
  exact (validate_outcome_iff_linked unambiguous_server distinguished_server).1.mpr
    ⟨[middleCertificate], rootCertificate, reachesRoot_server.linked⟩

end ChainOfTrust.Chain
