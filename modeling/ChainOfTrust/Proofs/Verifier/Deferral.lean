import ChainOfTrust.Manager
import ChainOfTrust.Proofs.Chain.Ending
import ChainOfTrust.Proofs.Verifier.Counts

/-!
# Aborting or deferring

A supplementary verifier never accepts a server that its inner verifier does not.

* `CheckAborts` : the validation of a leaf against the anchors of an adapter ends in an error;
* `checkRaises` : how much a check raises each counter;
* `verifyCertificate_of_undecodable`, `verifyCertificate_of_ofDer` : what a verification answers and
  counts, by what the leaf decodes to;
* `verifyCertificate_aborts_or_defers` : the answer is the error of the check or that of the inner
  verifier, and which of the two, like what is counted, depends on the leaf, the adapter and the
  instant alone.
-/

namespace ChainOfTrust

set_option autoImplicit false

open Chain
open ServerAuth (ChannelError)

/-! ## Verdicts -/

/-- No verdict vouches for a chain. -/
theorem Verdict.answer_ofOutcome (r : Except TrustError Bool) :
    (Verdict.ofOutcome r).answer = r.map fun _ => false := by
  rcases r with e | _ | _ <;> rfl

theorem TrustAdapter.judge_verdict (p : Provider) (now : Instant) (a : TrustAdapter)
    (leaf : Certificate) (rest : List Certificate) (authType : String) :
    (a.judge p now (leaf :: rest) authType).2 = .ofOutcome (a.climb p now leaf).outcome := by
  unfold judge
  simp only
  rcases (a.climb p now leaf).outcome with e | _ | _ <;> rfl

theorem Session.isTrusted_cons (p : Provider) (now : Instant) (s : Session) (a : TrustAdapter)
    (leaf : Certificate) (rest : List Certificate) (authType : String) :
    (s.isTrusted p now a (leaf :: rest) authType).1.outcome =
        (a.climb p now leaf).outcome.map (fun _ => false) ∧
      (s.isTrusted p now a (leaf :: rest) authType).2 =
        s.record a (.ofOutcome (a.climb p now leaf).outcome) := by
  have hverdict := a.judge_verdict p now leaf rest authType
  unfold isTrusted
  rw [← Verdict.answer_ofOutcome, ← hverdict]
  exact ⟨rfl, rfl⟩

/-- The check of what `der` decodes to, at the instant `t`, ends in an error. -/
def CheckAborts (p : Provider) (t : Instant) (a : TrustAdapter) (der : Bytes) (e : TrustError) :
    Prop :=
  ∃ leaf, Certificate.ofDer der = .ok leaf ∧
    (Chain.validate p t leaf a.anchors.certificates).outcome = .error e

/-- How much a check of what `der` decodes to raises a counter, by its verdict. Nothing is checked if
there is no certificate. -/
def checkRaises (p : Provider) (t : Instant) (a : TrustAdapter) (der : Bytes) : Counter → UInt64 :=
  match Certificate.ofDer der with
  | .error _ => fun _ => 0
  | .ok leaf => (Verdict.ofOutcome (Chain.validate p t leaf a.anchors.certificates).outcome).raises

/-! ## Managers -/

theorem TrustManager.verifierWith_eq_ok {inner : RootStore → ServerVerifier} {m : TrustManager}
    {v : SupplementaryVerifier} (h : (m.verifierWith inner).outcome = .ok v) :
    v = ⟨m.adapter, inner m.rootStore.2⟩ := by
  unfold verifierWith at h
  simp only at h
  split at h
  · cases h
  · exact (Except.ok.inj h).symm

/-- The bundled roots are enough for a verifier. -/
theorem TrustManager.verifierWith_of_bundled {inner : RootStore → ServerVerifier} {m : TrustManager}
    (h : m.settings.useBundledRoots = true) :
    (m.verifierWith inner).outcome = .ok ⟨m.adapter, inner m.rootStore.2⟩ := by
  have hsize : m.rootStore.2.size ≠ 0 := by
    unfold rootStore RootStore.size bundledRoots
    simp only [h, if_true]
    omega
  unfold verifierWith
  simp only [if_neg hsize]

namespace SupplementaryVerifier

variable {p : Provider} {now : Instant} {v : SupplementaryVerifier} {s : Session} {x : Presentation}
variable {leaf : Certificate}

/-! ## One verification -/

theorem presentedChain_of_ofDer (h : Certificate.ofDer x.leaf = .ok leaf) :
    ∃ events rest, presentedChain x = (events, some (leaf :: rest)) := by
  unfold presentedChain
  rw [h]
  exact ⟨_, _, rfl⟩

theorem presentedChain_of_undecodable {fault : CertificateFault}
    (h : Certificate.ofDer x.leaf = .error fault) :
    presentedChain x = ([.leafUndecodable fault], none) := by
  unfold presentedChain
  rw [h]

theorem verifyCertificate_of_undecodable {fault : CertificateFault}
    (h : Certificate.ofDer x.leaf = .error fault) :
    (verifyCertificate p now v s x).outcome = v.inner.verifyCertificate x ∧
      (verifyCertificate p now v s x).session = s := by
  unfold verifyCertificate
  rw [presentedChain_of_undecodable h]
  exact ⟨rfl, rfl⟩

theorem verifyCertificate_of_ofDer (h : Certificate.ofDer x.leaf = .ok leaf) :
    (verifyCertificate p now v s x).outcome =
        (match (v.adapter.climb p now leaf).outcome with
        | .error e => .error (abortedError p.wording e)
        | .ok _ => v.inner.verifyCertificate x) ∧
      (verifyCertificate p now v s x).session =
        s.record v.adapter (.ofOutcome (v.adapter.climb p now leaf).outcome) := by
  obtain ⟨events, rest, hchain⟩ := presentedChain_of_ofDer h
  obtain ⟨houtcome, hsession⟩ := s.isTrusted_cons p now v.adapter leaf rest unknownAuthType
  unfold verifyCertificate
  rw [hchain]
  simp only
  rw [houtcome, hsession]
  -- the adapter never answers `true`, so nothing is accepted early
  rcases (v.adapter.climb p now leaf).outcome with e | b
  · exact ⟨rfl, rfl⟩
  · exact ⟨rfl, rfl⟩

theorem verifyCertificate_of_aborts {e : TrustError}
    (h : CheckAborts p (v.adapter.validator.fixed.getD now) v.adapter x.leaf e) :
    (verifyCertificate p now v s x).outcome = .error (abortedError p.wording e) := by
  obtain ⟨leaf, hleaf, hfault⟩ := h
  have hclimb : (v.adapter.climb p now leaf).outcome = .error e := hfault
  rw [(verifyCertificate_of_ofDer hleaf).1, hclimb]

theorem verifyCertificate_of_not_aborts
    (h : ∀ e, ¬ CheckAborts p (v.adapter.validator.fixed.getD now) v.adapter x.leaf e) :
    (verifyCertificate p now v s x).outcome = v.inner.verifyCertificate x := by
  rcases hleaf : Certificate.ofDer x.leaf with fault | leaf
  · exact (verifyCertificate_of_undecodable hleaf).1
  · rw [(verifyCertificate_of_ofDer hleaf).1]
    rcases hclimb : (v.adapter.climb p now leaf).outcome with e | b
    · exact absurd ⟨leaf, hleaf, hclimb⟩ (h e)
    · rfl

/-! ## Two verifications -/

/-- What a verification counts depends on the leaf, the adapter and the instant alone. -/
theorem verifyCertificate_session :
    (verifyCertificate p now v s x).session =
      s.raise v.adapter (checkRaises p (v.adapter.validator.fixed.getD now) v.adapter x.leaf) := by
  unfold checkRaises
  rcases hleaf : Certificate.ofDer x.leaf with fault | leaf
  · rw [(verifyCertificate_of_undecodable hleaf).2, Session.raise_zero]
  · rw [(verifyCertificate_of_ofDer hleaf).2, Session.record_eq_raise]
    rfl

/-- **A verifier only aborts or defers**, and does so alike whenever adapter, leaf and instant are. -/
theorem verifyCertificate_aborts_or_defers {inner : RootStore → ServerVerifier} {m : TrustManager}
    (hv : (m.verifierWith inner).outcome = .ok v) :
    (∀ now s x,
      (∀ e, CheckAborts p (m.adapter.validator.fixed.getD now) m.adapter x.leaf e →
        (verifyCertificate p now v s x).outcome =
          .error (.general ("Supplementary trust check aborted: " ++ e.message p.wording))) ∧
      ((∀ e, ¬ CheckAborts p (m.adapter.validator.fixed.getD now) m.adapter x.leaf e) →
        (verifyCertificate p now v s x).outcome = (inner m.rootStore.2).verifyCertificate x) ∧
      ((verifyCertificate p now v s x).outcome = .ok () →
        (inner m.rootStore.2).verifyCertificate x = .ok ())) ∧
    ∀ (w : SupplementaryVerifier) now now' s s' x x', w.adapter = m.adapter → x'.leaf = x.leaf →
      m.adapter.validator.fixed.getD now' = m.adapter.validator.fixed.getD now →
      ((∃ e, CheckAborts p (m.adapter.validator.fixed.getD now) m.adapter x.leaf e ∧
          (verifyCertificate p now v s x).outcome = .error (abortedError p.wording e) ∧
          (verifyCertificate p now' w s' x').outcome = .error (abortedError p.wording e)) ∨
        ((∀ e, ¬ CheckAborts p (m.adapter.validator.fixed.getD now) m.adapter x.leaf e) ∧
          (verifyCertificate p now v s x).outcome = v.inner.verifyCertificate x ∧
          (verifyCertificate p now' w s' x').outcome = w.inner.verifyCertificate x')) ∧
      (verifyCertificate p now v s x).session = s.raise m.adapter
        (checkRaises p (m.adapter.validator.fixed.getD now) m.adapter x.leaf) ∧
      (verifyCertificate p now' w s' x').session = s'.raise m.adapter
        (checkRaises p (m.adapter.validator.fixed.getD now) m.adapter x.leaf) := by
  obtain rfl := TrustManager.verifierWith_eq_ok hv
  refine ⟨fun now s x => ⟨fun e he => verifyCertificate_of_aborts he,
    fun hnone => verifyCertificate_of_not_aborts hnone, fun haccept => ?_⟩, ?_⟩
  · by_cases h : ∃ e, CheckAborts p (m.adapter.validator.fixed.getD now) m.adapter x.leaf e
    · obtain ⟨e, he⟩ := h
      rw [verifyCertificate_of_aborts he] at haccept
      cases haccept
    · rwa [verifyCertificate_of_not_aborts (not_exists.mp h)] at haccept
  · intro w now now' s s' x x' hw hleaf ht
    constructor
    · by_cases h : ∃ e, CheckAborts p (m.adapter.validator.fixed.getD now) m.adapter x.leaf e
      · obtain ⟨e, he⟩ := h
        refine Or.inl ⟨e, he, verifyCertificate_of_aborts he, verifyCertificate_of_aborts ?_⟩
        rwa [hw, hleaf, ht]
      · have h := not_exists.mp h
        refine Or.inr ⟨h, verifyCertificate_of_not_aborts h, verifyCertificate_of_not_aborts ?_⟩
        rwa [hw, hleaf, ht]
    · refine ⟨verifyCertificate_session, ?_⟩
      rw [verifyCertificate_session, hw, hleaf, ht]

/-! ## A leaf that makes the check abort -/

/-- A certificate for CN=Leaf from CN=Root that says it is signed with MD5. -/
def md5Der : Bytes :=
  [0x30, 0x76, 0x30, 0x61, 0x02, 0x01, 0x03, 0x30, 0x0D, 0x06, 0x09, 0x2A, 0x86, 0x48, 0x86, 0xF7,
  0x0D, 0x01, 0x01, 0x04, 0x05, 0x00, 0x30, 0x0F, 0x31, 0x0D, 0x30, 0x0B, 0x06, 0x03, 0x55, 0x04,
  0x03, 0x0C, 0x04, 0x52, 0x6F, 0x6F, 0x74, 0x30, 0x1E, 0x17, 0x0D, 0x32, 0x30, 0x30, 0x31, 0x30,
  0x31, 0x30, 0x30, 0x30, 0x30, 0x30, 0x30, 0x5A, 0x17, 0x0D, 0x34, 0x39, 0x31, 0x32, 0x33, 0x31,
  0x32, 0x33, 0x35, 0x39, 0x35, 0x39, 0x5A, 0x30, 0x0F, 0x31, 0x0D, 0x30, 0x0B, 0x06, 0x03, 0x55,
  0x04, 0x03, 0x0C, 0x04, 0x4C, 0x65, 0x61, 0x66, 0x30, 0x0B, 0x30, 0x05, 0x06, 0x03, 0x2B, 0x65,
  0x70, 0x03, 0x02, 0x00, 0x01, 0x30, 0x0D, 0x06, 0x09, 0x2A, 0x86, 0x48, 0x86, 0xF7, 0x0D, 0x01,
  0x01, 0x04, 0x05, 0x00, 0x03, 0x02, 0x00, 0x01]

def md5Certificate : Certificate := (Certificate.ofDer md5Der).toOption.get (by decide +kernel)

theorem checkAborts_md5 {a : TrustAdapter} (ha : a.anchors.certificates = [rootCertificate])
    (t : Instant) :
    CheckAborts .standard t a md5Der
      (.unsupportedAlgorithm (.unknown "1.2.840.113549.1.1.4")) := by
  have hhop : validateHop .standard t md5Certificate rootCertificate =
      .error (.unsupportedAlgorithm (.unknown "1.2.840.113549.1.1.4")) :=
    validateHop_eq_error_iff.mpr ⟨by decide +kernel, by decide +kernel⟩
  refine ⟨md5Certificate, by decide +kernel, ?_⟩
  rw [ha, validate, climb_outcome, step, List.reverse_singleton, firstVoucher, hhop]

def rootManager : TrustManager where
  adapter := { anchors := ⟨[rootCertificate]⟩, account := 0 }

def rootVerifier : SupplementaryVerifier :=
  ⟨rootManager.adapter, .pathVerifier .standard rootManager.rootStore.2.roots⟩

/-- Garbage among the intermediates changes nothing. -/
theorem verifyCertificate_md5 :
    (rootManager.verifier .standard).outcome = .ok rootVerifier ∧
      (verifyCertificate .standard 0 rootVerifier {}
        ⟨md5Der, [[0x30, 0xFF]], .host [0x6C], [], 0⟩).outcome =
        .error (.general ("Supplementary trust check aborted: " ++
          "Unsupported signature algorithm: OID 1.2.840.113549.1.1.4")) := by
  have hv : (rootManager.verifierWith fun store => .pathVerifier .standard store.roots).outcome =
      .ok rootVerifier := TrustManager.verifierWith_of_bundled rfl
  have habort := checkAborts_md5 (rfl : rootManager.adapter.anchors.certificates = _) 0
  have htext : (TrustError.unsupportedAlgorithm (.unknown "1.2.840.113549.1.1.4")).message =
      "Unsupported signature algorithm: OID 1.2.840.113549.1.1.4" := by decide
  rw [← htext]
  exact ⟨hv, ((verifyCertificate_aborts_or_defers hv).1 0 {} _).1 _ habort⟩

end SupplementaryVerifier

end ChainOfTrust
