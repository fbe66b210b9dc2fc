import ChainOfTrust.Proofs.Chain.Ending

/-!
# The guard against cycles

A validation keeps the fingerprints it has climbed through, and its outcome is that of the walk which
keeps nothing.

* `ReachesRoot s path root` : the walk from `s` goes through `path` and stops at the root `root`;
* `Fails s e` : the walk meets the error `e` before it meets a certificate for the second time;
* `RunsOut s` : the walk comes to a certificate for which no candidate vouches;
* `validate_outcome_iff_walk` : a validation accepts, fails or rejects as its walk does one of these,
  or goes round a cycle.
* `crowdedStore`, `crossedStore` : a store that keeps one certificate twice and another of its name,
  and one whose certificates signed each other.
-/

namespace ChainOfTrust.Chain

set_option autoImplicit false

section Walk
variable (p : Provider) (t : Instant) (candidates : List Certificate)

def ReachesRoot (s : Certificate) (path : List Certificate) (root : Certificate) : Prop :=
  ∃ top, Ascent p t candidates s path top ∧ step p t candidates top = .ok (some root) ∧
    (isSelfSigned p root).outcome = .ok true

def Fails (s : Certificate) (e : TrustError) : Prop :=
  ∃ path top, Ascent p t candidates s path top ∧ (s :: path).Nodup ∧
    (step p t candidates top = .error e ∨
      ∃ c, step p t candidates top = .ok (some c) ∧ c ∉ s :: path ∧
        (isSelfSigned p c).outcome = .error e)

def RunsOut (s : Certificate) : Prop :=
  ∃ path top, Ascent p t candidates s path top ∧ step p t candidates top = .ok none

end Walk

variable {p : Provider} {t : Instant} {candidates : List Certificate}
variable {s c root top : Certificate} {path : List Certificate} {e : TrustError}

theorem halted_of_outcome_ne_false (h : (endingAt p t candidates top).outcome ≠ .ok false) :
    Halted p t candidates top := by
  rw [halted_iff]
  intro c hc
  exact h (by rw [hc, Ending.outcome])

/-- The ending is where the ascent stops unless the outcome is `false`. -/
theorem fate_iff_of_ne_false {r : Except TrustError Bool} (hr : r ≠ .ok false) :
    Fate p t candidates s r ↔
      ∃ path top, Ascent p t candidates s path top ∧ (endingAt p t candidates top).outcome = r := by
  constructor
  · rintro ⟨path, top, h, -, hout⟩
    exact ⟨path, top, h, hout⟩
  · rintro ⟨path, top, h, rfl⟩
    exact ⟨path, top, h, fun c hc => absurd hc (halted_iff.mp (halted_of_outcome_ne_false hr) c), rfl⟩

/-! ## The three outcomes -/

theorem fate_true_iff :
    Fate p t candidates s (.ok true) ↔ ∃ path root, ReachesRoot p t candidates s path root := by
  rw [fate_iff_of_ne_false (by simp)]
  constructor
  · rintro ⟨path, top, h, hout⟩
    obtain ⟨root, hstep, hself⟩ := outcome_endingAt_eq_true_iff.mp hout
    exact ⟨path, root, top, h, hstep, hself⟩
  · rintro ⟨path, root, top, h, hstep, hself⟩
    exact ⟨path, top, h, outcome_endingAt_eq_true_iff.mpr ⟨root, hstep, hself⟩⟩

/-- A certificate of which the test for a root fails is new to the ascent. -/
theorem not_mem_of_isSelfSigned_error (h : Ascent p t candidates s path top)
    (hstep : step p t candidates top = .ok (some c)) (hself : (isSelfSigned p c).outcome = .error e) :
    c ∉ s :: path := by
  intro hc
  rcases List.mem_cons.mp hc with rfl | hc
  · -- the ascent leaves the subject and comes back, so it lies between two good hops
    cases h with
    | refl => rw [isSelfSigned_of_hop_self (validateHop_of_step hstep)] at hself; cases hself
    | climb first _ =>
      exact isSelfSigned_ne_error (validateHop_of_step first.1) (validateHop_of_step hstep) e hself
  · rw [(h.mem hc).2] at hself
    cases hself

theorem fate_error_iff : Fate p t candidates s (.error e) ↔ Fails p t candidates s e := by
  rw [fate_iff_of_ne_false (by simp)]
  constructor
  · rintro ⟨path, top, h, hout⟩
    have hnodup := h.nodup (halted_of_outcome_ne_false (by rw [hout]; simp))
    refine ⟨path, top, h, hnodup, ?_⟩
    rcases outcome_endingAt_eq_error_iff.mp hout with hstep | ⟨c, hstep, hself⟩
    · exact Or.inl hstep
    · exact Or.inr ⟨c, hstep, not_mem_of_isSelfSigned_error h hstep hself, hself⟩
  · rintro ⟨path, top, h, -, hfault⟩
    refine ⟨path, top, h, outcome_endingAt_eq_error_iff.mpr ?_⟩
    rcases hfault with hstep | ⟨c, hstep, -, hself⟩
    · exact Or.inl hstep
    · exact Or.inr ⟨c, hstep, hself⟩

theorem fate_false (h : Fate p t candidates s (.ok false)) :
    RunsOut p t candidates s ∨ Circles p t candidates s := by
  obtain ⟨path, top, h, hcycle, hout⟩ := h
  rcases outcome_endingAt_eq_false_iff.mp hout with hstep | ⟨c, hc⟩
  · exact Or.inl ⟨path, top, h, hstep⟩
  · exact Or.inr (circles_of_cycle h hc (hcycle c hc))

theorem RunsOut.fate (h : RunsOut p t candidates s) : Fate p t candidates s (.ok false) := by
  obtain ⟨path, top, h, hstep⟩ := h
  have hending : endingAt p t candidates top = .noIssuer := by
    unfold endingAt
    rw [hstep]
  exact ⟨path, top, h, by simp [hending], by rw [hending, Ending.outcome]⟩

theorem Circles.fate_eq {r : Except TrustError Bool} (hround : Circles p t candidates s)
    (h : Fate p t candidates s r) : r = .ok false := by
  obtain ⟨path, top, h, hcycle, rfl⟩ := h
  rcases halted_or_circles h hcycle with hhalt | ⟨hfalse, -⟩
  · exact absurd hhalt (hround.not_halted h)
  · exact hfalse

/-! ## The walk to a root -/

theorem ReachesRoot.nodup (h : ReachesRoot p t candidates s path root) :
    (path ++ [root]).Nodup := by
  obtain ⟨top, h, hstep, hself⟩ := h
  have hending : (endingAt p t candidates top).outcome = .ok true :=
    outcome_endingAt_eq_true_iff.mpr ⟨root, hstep, hself⟩
  have hpath := (List.nodup_cons.mp
    (h.nodup (halted_of_outcome_ne_false (by rw [hending]; simp)))).2
  refine List.nodup_append.mpr ⟨hpath, List.nodup_singleton root, fun c hc d hd => ?_⟩
  rintro rfl
  obtain rfl := List.mem_singleton.mp hd
  rw [(h.mem hc).2] at hself
  cases hself

theorem ReachesRoot.mem (h : ReachesRoot p t candidates s path root) :
    ∀ c ∈ path ++ [root], c ∈ candidates := by
  obtain ⟨top, h, hstep, -⟩ := h
  intro c hc
  rcases List.mem_append.mp hc with hc | hc
  · exact (h.mem hc).1
  · exact List.mem_singleton.mp hc ▸ mem_of_step hstep

theorem ReachesRoot.isChain (h : ReachesRoot p t candidates s path root) :
    List.IsChain (fun a b => validateHop p t a b = .ok .valid) (s :: (path ++ [root])) := by
  obtain ⟨top, h, hstep, -⟩ := h
  exact h.isChain hstep

/-! ## The guarded walk and the walk -/

/-- **The guard changes no outcome** while fingerprints tell the certificates apart. -/
theorem validate_outcome_iff_walk (hC : Distinguished (s :: candidates)) :
    ((validate p t s candidates).outcome = .ok true ↔
      ∃ path root, ReachesRoot p t candidates s path root) ∧
    (∀ e, (validate p t s candidates).outcome = .error e ↔ Fails p t candidates s e) ∧
    ((validate p t s candidates).outcome = .ok false ↔
      RunsOut p t candidates s ∨ Circles p t candidates s) ∧
    ∀ path root, ReachesRoot p t candidates s path root →
      (path ++ [root]).Nodup ∧ (∀ c ∈ path ++ [root], c ∈ candidates) ∧
        List.IsChain (fun a b => validateHop p t a b = .ok .valid) (s :: (path ++ [root])) ∧
        (isSelfSigned p root).outcome = .ok true := by
  refine ⟨(validate_outcome_iff hC).trans fate_true_iff,
    fun e => (validate_outcome_iff hC).trans fate_error_iff, ⟨fun hout => ?_, ?_⟩,
    fun path root h => ⟨h.nodup, h.mem, h.isChain, ?_⟩⟩
  · exact fate_false ((validate_outcome_iff hC).mp hout)
  · rintro (hout | hround)
    · exact (validate_outcome_iff hC).mpr hout.fate
    · exact hround.fate_eq (validate_fate hC)
  · obtain ⟨top, -, -, hself⟩ := h
    exact hself

/-! ## A chain of three -/

def middleDer : Bytes :=
  [0x30, 0x81, 0xC6, 0x30, 0x7A, 0x02, 0x01, 0x05, 0x30, 0x05, 0x06, 0x03, 0x2B, 0x65, 0x70, 0x30,
  0x0F, 0x31, 0x0D, 0x30, 0x0B, 0x06, 0x03, 0x55, 0x04, 0x03, 0x0C, 0x04, 0x52, 0x6F, 0x6F, 0x74,
  0x30, 0x1E, 0x17, 0x0D, 0x32, 0x30, 0x30, 0x31, 0x30, 0x31, 0x30, 0x30, 0x30, 0x30, 0x30, 0x30,
  0x5A, 0x17, 0x0D, 0x34, 0x39, 0x31, 0x32, 0x33, 0x31, 0x32, 0x33, 0x35, 0x39, 0x35, 0x39, 0x5A,
  0x30, 0x11, 0x31, 0x0F, 0x30, 0x0D, 0x06, 0x03, 0x55, 0x04, 0x03, 0x0C, 0x06, 0x4D, 0x69, 0x64,
  0x64, 0x6C, 0x65, 0x30, 0x2A, 0x30, 0x05, 0x06, 0x03, 0x2B, 0x65, 0x70, 0x03, 0x21, 0x00, 0x50,
  0xCB, 0x83, 0xC6, 0xD3, 0x47, 0x11, 0xBF, 0xA5, 0x21, 0x71, 0x21, 0x82, 0x43, 0x96, 0xBD, 0x62,
  0x35, 0x78, 0x36, 0x97, 0x87, 0xC1, 0x2F, 0xFF, 0x8E, 0x06, 0x4D, 0x04, 0x60, 0xAD, 0xC6, 0x30,
  0x05, 0x06, 0x03, 0x2B, 0x65, 0x70, 0x03, 0x41, 0x00, 0x82, 0xE9, 0x25, 0x3D, 0x9D, 0x09, 0xD0,
  0x8F, 0xC8, 0xF5, 0xE7, 0x35, 0xF2, 0xAA, 0x55, 0x26, 0x36, 0x8E, 0x25, 0xD1, 0x36, 0xF7, 0xA3,
  0x7A, 0x58, 0x35, 0x78, 0x04, 0xC8, 0xE0, 0x01, 0x82, 0x71, 0x02, 0xC3, 0x99, 0xFA, 0x91, 0xD3,
  0x32, 0x23, 0x02, 0x9F, 0xFD, 0xE3, 0x04, 0x75, 0x5D, 0xFB, 0x1A, 0x44, 0xF9, 0x33, 0x40, 0x52,
  0xDE, 0x7F, 0xB5, 0x06, 0x39, 0x1B, 0xC9, 0x24, 0x02]

def strangerDer : Bytes :=
  [0x30, 0x81, 0xC6, 0x30, 0x7A, 0x02, 0x01, 0x06, 0x30, 0x05, 0x06, 0x03, 0x2B, 0x65, 0x70, 0x30,
  0x0F, 0x31, 0x0D, 0x30, 0x0B, 0x06, 0x03, 0x55, 0x04, 0x03, 0x0C, 0x04, 0x52, 0x6F, 0x6F, 0x74,
  0x30, 0x1E, 0x17, 0x0D, 0x32, 0x30, 0x30, 0x31, 0x30, 0x31, 0x30, 0x30, 0x30, 0x30, 0x30, 0x30,
  0x5A, 0x17, 0x0D, 0x34, 0x39, 0x31, 0x32, 0x33, 0x31, 0x32, 0x33, 0x35, 0x39, 0x35, 0x39, 0x5A,
  0x30, 0x11, 0x31, 0x0F, 0x30, 0x0D, 0x06, 0x03, 0x55, 0x04, 0x03, 0x0C, 0x06, 0x4D, 0x69, 0x64,
  0x64, 0x6C, 0x65, 0x30, 0x2A, 0x30, 0x05, 0x06, 0x03, 0x2B, 0x65, 0x70, 0x03, 0x21, 0x00, 0xE1,
  0x74, 0x59, 0x04, 0xDA, 0xCA, 0x2F, 0xF8, 0x8F, 0xAD, 0xE7, 0x2C, 0x19, 0x26, 0x12, 0x7B, 0x54,
  0x0E, 0xFA, 0x6F, 0x68, 0xF6, 0x0B, 0x43, 0x4B, 0x8C, 0x3F, 0x50, 0xE7, 0x90, 0x75, 0xF5, 0x30,
  0x05, 0x06, 0x03, 0x2B, 0x65, 0x70, 0x03, 0x41, 0x00, 0x7C, 0xC0, 0x30, 0xFA, 0x15, 0xAA, 0x22,
  0x07, 0x1F, 0xE8, 0xAE, 0x38, 0xA3, 0x2B, 0x2E, 0x7D, 0x85, 0xD4, 0x8F, 0xF4, 0x6C, 0x60, 0xB6,
  0x06, 0xD7, 0xE9, 0x57, 0x7C, 0x4E, 0x6D, 0x36, 0xC5, 0x23, 0x6F, 0xE9, 0x48, 0x64, 0x7C, 0x21,
  0xCB, 0x2C, 0x6A, 0xDA, 0x50, 0xB6, 0x2D, 0x0E, 0x44, 0x6E, 0x16, 0x60, 0xB5, 0xD3, 0xE5, 0xAE,
  0xD9, 0xCE, 0x35, 0xD6, 0x7A, 0x33, 0x0F, 0x20, 0x0D]

def serverDer : Bytes :=
  [0x30, 0x81, 0xC8, 0x30, 0x7C, 0x02, 0x01, 0x07, 0x30, 0x05, 0x06, 0x03, 0x2B, 0x65, 0x70, 0x30,
  0x11, 0x31, 0x0F, 0x30, 0x0D, 0x06, 0x03, 0x55, 0x04, 0x03, 0x0C, 0x06, 0x4D, 0x69, 0x64, 0x64,
  0x6C, 0x65, 0x30, 0x1E, 0x17, 0x0D, 0x32, 0x30, 0x30, 0x31, 0x30, 0x31, 0x30, 0x30, 0x30, 0x30,
  0x30, 0x30, 0x5A, 0x17, 0x0D, 0x34, 0x39, 0x31, 0x32, 0x33, 0x31, 0x32, 0x33, 0x35, 0x39, 0x35,
  0x39, 0x5A, 0x30, 0x11, 0x31, 0x0F, 0x30, 0x0D, 0x06, 0x03, 0x55, 0x04, 0x03, 0x0C, 0x06, 0x53,
  0x65, 0x72, 0x76, 0x65, 0x72, 0x30, 0x2A, 0x30, 0x05, 0x06, 0x03, 0x2B, 0x65, 0x70, 0x03, 0x21,
  0x00, 0x71, 0x55, 0xF9, 0xC8, 0x9F, 0xC1, 0x5E, 0x95, 0x18, 0x17, 0xDA, 0x0F, 0x1A, 0x6D, 0x2E,
  0x61, 0x1E, 0x72, 0x14, 0xBC, 0x6F, 0x5F, 0xE1, 0x6D, 0x82, 0xB0, 0xC6, 0x7A, 0x60, 0xA9, 0x24,
  0x05, 0x30, 0x05, 0x06, 0x03, 0x2B, 0x65, 0x70, 0x03, 0x41, 0x00, 0x8B, 0xCB, 0x87, 0x17, 0x1C,
  0x2D, 0xB5, 0xF1, 0x25, 0xCE, 0x1E, 0xDE, 0x8A, 0xA3, 0x72, 0xE5, 0xE9, 0x01, 0xDE, 0xDC, 0xC8,
  0x11, 0xAF, 0xFB, 0xB2, 0xD5, 0x9A, 0xF0, 0x73, 0x68, 0xC9, 0x77, 0xFF, 0x3E, 0x2E, 0x42, 0x6F,
  0xBD, 0x16, 0x9C, 0xBC, 0x12, 0x42, 0x87, 0xF8, 0x6D, 0x7F, 0x83, 0xED, 0xF3, 0x12, 0x23, 0x1C,
  0xD8, 0x75, 0x3E, 0x8A, 0x96, 0x0B, 0x8B, 0xD6, 0xEE, 0x34, 0x0F]

/-- A certificate for CN=Middle that `rootCertificate` signed. -/
def middleCertificate : Certificate := (Certificate.ofDer middleDer).toOption.get (by decide +kernel)

/-- Another for CN=Middle, under another key. -/
def strangerCertificate : Certificate :=
  (Certificate.ofDer strangerDer).toOption.get (by decide +kernel)

/-- A certificate for CN=Server that `middleCertificate` signed. -/
def serverCertificate : Certificate := (Certificate.ofDer serverDer).toOption.get (by decide +kernel)

/-- One certificate twice, and behind it one with its name. -/
def crowdedStore : List Certificate :=
  [rootCertificate, middleCertificate, middleCertificate, strangerCertificate]

/-- All these certificates are valid in September 2020. -/
def september : Instant := 1600000000000000000

/-- The hops that the scans of `crowdedStore` try. -/
theorem hops_crowdedStore :
    validateHop .standard september serverCertificate strangerCertificate =
      .ok (.invalid .signatureMismatch) ∧
    validateHop .standard september serverCertificate middleCertificate = .ok .valid ∧
    validateHop .standard september middleCertificate strangerCertificate = .ok .noMatch ∧
    validateHop .standard september middleCertificate middleCertificate = .ok .noMatch ∧
    validateHop .standard september middleCertificate rootCertificate = .ok .valid ∧
    (isSelfSigned .standard middleCertificate).outcome = .ok false := by
  decide +kernel

/-- The candidate that has only the name is passed over. -/
theorem climbsTo_middle :
    ClimbsTo .standard september crowdedStore serverCertificate middleCertificate := by
  obtain ⟨hstranger, hmiddle, -, -, -, hself⟩ := hops_crowdedStore
  refine ⟨?_, hself⟩
  show firstVoucher .standard september serverCertificate
    [strangerCertificate, middleCertificate, middleCertificate, rootCertificate] = _
  rw [firstVoucher, hstranger, firstVoucher, hmiddle]

theorem step_middle :
    step .standard september crowdedStore middleCertificate = .ok (some rootCertificate) := by
  obtain ⟨-, -, hstranger, hmiddle, hroot, -⟩ := hops_crowdedStore
  show firstVoucher .standard september middleCertificate
    [strangerCertificate, middleCertificate, middleCertificate, rootCertificate] = _
  rw [firstVoucher, hstranger, firstVoucher, hmiddle, firstVoucher, hmiddle, firstVoucher, hroot]

theorem reachesRoot_server :
    ReachesRoot .standard september crowdedStore serverCertificate [middleCertificate]
      rootCertificate :=
  ⟨middleCertificate, .single climbsTo_middle, step_middle, isSelfSigned_root⟩

/-- The first octets of the fingerprints differ. -/
theorem fingerprint_heads_crowded :
    serverCertificate.fingerprint.head? = some 0x76 ∧
    rootCertificate.fingerprint.head? = some 0x0E ∧
    middleCertificate.fingerprint.head? = some 0x83 ∧
    strangerCertificate.fingerprint.head? = some 0xCE := by
  decide +kernel

theorem distinguished_server : Distinguished (serverCertificate :: crowdedStore) := by
  obtain ⟨hserver, hroot, hmiddle, hstranger⟩ := fingerprint_heads_crowded
  have hdistinct : Distinguished
      [serverCertificate, rootCertificate, middleCertificate, strangerCertificate] := by
    refine distinguished_of_nodup List.head? ?_
    simp [hserver, hroot, hmiddle, hstranger]
  exact hdistinct.mono (by simp [crowdedStore])

/-! ## Two certificates that signed each other -/

def eastDer : Bytes :=
  [0x30, 0x81, 0xC4, 0x30, 0x78, 0x02, 0x01, 0x08, 0x30, 0x05, 0x06, 0x03, 0x2B, 0x65, 0x70, 0x30,
  0x0F, 0x31, 0x0D, 0x30, 0x0B, 0x06, 0x03, 0x55, 0x04, 0x03, 0x0C, 0x04, 0x57, 0x65, 0x73, 0x74,
  0x30, 0x1E, 0x17, 0x0D, 0x32, 0x30, 0x30, 0x31, 0x30, 0x31, 0x30, 0x30, 0x30, 0x30, 0x30, 0x30,
  0x5A, 0x17, 0x0D, 0x34, 0x39, 0x31, 0x32, 0x33, 0x31, 0x32, 0x33, 0x35, 0x39, 0x35, 0x39, 0x5A,
  0x30, 0x0F, 0x31, 0x0D, 0x30, 0x0B, 0x06, 0x03, 0x55, 0x04, 0x03, 0x0C, 0x04, 0x45, 0x61, 0x73,
  0x74, 0x30, 0x2A, 0x30, 0x05, 0x06, 0x03, 0x2B, 0x65, 0x70, 0x03, 0x21, 0x00, 0x24, 0x58, 0x3E,
  0x3B, 0x13, 0x88, 0x8B, 0x30, 0x05, 0x18, 0xE1, 0x9E, 0x1F, 0x66, 0x2A, 0x2C, 0x3A, 0xDF, 0x15,
  0x6D, 0xE2, 0xFB, 0xE3, 0x36, 0x5E, 0x42, 0xD0, 0x13, 0x9A, 0xD7, 0xD4, 0x76, 0x30, 0x05, 0x06,
  0x03, 0x2B, 0x65, 0x70, 0x03, 0x41, 0x00, 0x1E, 0x73, 0xC4, 0x69, 0xE9, 0xC4, 0xA8, 0x61, 0xEE,
  0x75, 0x99, 0x4B, 0x07, 0xA5, 0x60, 0x9D, 0xB9, 0xE8, 0x3A, 0x58, 0x8A, 0x77, 0xBC, 0x34, 0x4A,
  0xDB, 0x40, 0x5A, 0xA1, 0x62, 0xAE, 0x2F, 0xB0, 0x36, 0xC8, 0x5E, 0x45, 0x36, 0x68, 0xD4, 0xE5,
  0xBA, 0xC7, 0x2F, 0x0E, 0x6D, 0x21, 0x06, 0xE0, 0x86, 0x50, 0x63, 0x09, 0x42, 0x94, 0x05, 0x2E,
  0x18, 0xC0, 0xE4, 0xA3, 0x4C, 0xBA, 0x07]

def westDer : Bytes :=
  [0x30, 0x81, 0xC4, 0x30, 0x78, 0x02, 0x01, 0x09, 0x30, 0x05, 0x06, 0x03, 0x2B, 0x65, 0x70, 0x30,
  0x0F, 0x31, 0x0D, 0x30, 0x0B, 0x06, 0x03, 0x55, 0x04, 0x03, 0x0C, 0x04, 0x45, 0x61, 0x73, 0x74,
  0x30, 0x1E, 0x17, 0x0D, 0x32, 0x30, 0x30, 0x31, 0x30, 0x31, 0x30, 0x30, 0x30, 0x30, 0x30, 0x30,
  0x5A, 0x17, 0x0D, 0x34, 0x39, 0x31, 0x32, 0x33, 0x31, 0x32, 0x33, 0x35, 0x39, 0x35, 0x39, 0x5A,
  0x30, 0x0F, 0x31, 0x0D, 0x30, 0x0B, 0x06, 0x03, 0x55, 0x04, 0x03, 0x0C, 0x04, 0x57, 0x65, 0x73,
  0x74, 0x30, 0x2A, 0x30, 0x05, 0x06, 0x03, 0x2B, 0x65, 0x70, 0x03, 0x21, 0x00, 0xE3, 0x37, 0x08,
  0x82, 0xB3, 0xEE, 0x49, 0x43, 0x26, 0x86, 0x0F, 0x33, 0x45, 0x61, 0x72, 0x96, 0xC4, 0xD4, 0xBB,
  0x2E, 0x4C, 0xAC, 0x67, 0x24, 0x64, 0x77, 0xCE, 0x67, 0x53, 0x3C, 0xC8, 0x60, 0x30, 0x05, 0x06,
  0x03, 0x2B, 0x65, 0x70, 0x03, 0x41, 0x00, 0x19, 0xD5, 0x8F, 0xC3, 0xCE, 0xB6, 0xE4, 0x88, 0x4C,
  0xFC, 0x6A, 0xA8, 0xBC, 0xDA, 0xEA, 0x95, 0xBB, 0x48, 0x92, 0x10, 0x7B, 0x68, 0x9E, 0xDB, 0xEA,
  0x2E, 0x02, 0x3D, 0xA7, 0x63, 0xEF, 0xB6, 0x02, 0x12, 0x35, 0x43, 0x56, 0x10, 0xFD, 0x04, 0xBE,
  0x22, 0x56, 0xC1, 0x6B, 0xC6, 0xA5, 0x12, 0x6B, 0x2A, 0xCD, 0x5C, 0x85, 0xBD, 0x23, 0x76, 0xFA,
  0x9C, 0x8B, 0xAC, 0xFD, 0xD9, 0xB4, 0x05]

/-- A certificate for CN=East that `westCertificate` signed. -/
def eastCertificate : Certificate := (Certificate.ofDer eastDer).toOption.get (by decide +kernel)

/-- A certificate for CN=West that `eastCertificate` signed. -/
def westCertificate : Certificate := (Certificate.ofDer westDer).toOption.get (by decide +kernel)

def crossedStore : List Certificate := [eastCertificate, westCertificate]

/-- The hops that the scans of `crossedStore` try. Neither certificate is a root. -/
theorem hops_crossedStore :
    validateHop .standard september eastCertificate westCertificate = .ok .valid ∧
    validateHop .standard september westCertificate westCertificate = .ok .noMatch ∧
    validateHop .standard september westCertificate eastCertificate = .ok .valid ∧
    (isSelfSigned .standard eastCertificate).outcome = .ok false ∧
    (isSelfSigned .standard westCertificate).outcome = .ok false := by
  decide +kernel

theorem climbsTo_west :
    ClimbsTo .standard september crossedStore eastCertificate westCertificate := by
  obtain ⟨hwest, -, -, -, hself⟩ := hops_crossedStore
  refine ⟨?_, hself⟩
  show firstVoucher .standard september eastCertificate [westCertificate, eastCertificate] = _
  rw [firstVoucher, hwest]

theorem climbsTo_east :
    ClimbsTo .standard september crossedStore westCertificate eastCertificate := by
  obtain ⟨-, hwest, heast, hself, -⟩ := hops_crossedStore
  refine ⟨?_, hself⟩
  show firstVoucher .standard september westCertificate [westCertificate, eastCertificate] = _
  rw [firstVoucher, hwest, firstVoucher, heast]

theorem circles_east : Circles .standard september crossedStore eastCertificate :=
  circles_iff.mpr ⟨[], eastCertificate, [westCertificate, eastCertificate], .refl _,
    .climb climbsTo_west (.single climbsTo_east), List.cons_ne_nil _ _⟩

theorem fingerprint_heads_crossed :
    eastCertificate.fingerprint.head? = some 0x4C ∧
    westCertificate.fingerprint.head? = some 0xFD := by
  decide +kernel

theorem distinguished_east : Distinguished (eastCertificate :: crossedStore) := by
  obtain ⟨heast, hwest⟩ := fingerprint_heads_crossed
  have hdistinct : Distinguished crossedStore := by
    refine distinguished_of_nodup List.head? ?_
    simp [crossedStore, heast, hwest]
  exact hdistinct.mono (by simp [crossedStore])

/-- Past a candidate that has only the name to a root, and round a cycle. -/
theorem validate_server_iff_walk :
    (Distinguished (serverCertificate :: crowdedStore) ∧
      (validate .standard september serverCertificate crowdedStore).outcome = .ok true) ∧
    Distinguished (eastCertificate :: crossedStore) ∧
      (validate .standard september eastCertificate crossedStore).outcome = .ok false :=
  ⟨⟨distinguished_server, (validate_outcome_iff_walk distinguished_server).1.mpr
      ⟨[middleCertificate], rootCertificate, reachesRoot_server⟩⟩,
    distinguished_east, (validate_outcome_iff_walk distinguished_east).2.2.1.mpr
      (Or.inr circles_east)⟩

end ChainOfTrust.Chain
