import Mathlib.Data.Int.ConditionallyCompleteOrder
import Mathlib.Data.Set.Lattice
import Mathlib.Order.Interval.Set.Basic
import ChainOfTrust.Proofs.Chain.Guard

/-!
# A chain at different instants

The clock never steers a climb. Each certificate that is climbed from has to be within its period, or
else nothing vouches for it; a candidate is not asked for its own.

* `period c` : the instants within the period of `c`, both ends included;
* `Accepts s path root` : the climb from `s` commits to the certificates of `path` and then to `root`;
* `step_unique` : the steps from a certificate at two instants do not differ, so two climbs that accept
  take the same path (`ReachesRoot.unique`);
* `validate_accepts_iff_mem_Icc` : a validation accepts during one closed interval, the common part of
  the periods of all certificates but the root.
-/

namespace ChainOfTrust.Chain

set_option autoImplicit false

def period (c : Certificate) : Set Instant :=
  Set.Icc (.ofSeconds c.validity.notBefore) (.ofSeconds c.validity.notAfter)

/-- The climb from `s` commits to the certificates of `path`, one after the other, and then to the
root. -/
def Accepts (p : Provider) (t : Instant) (candidates : List Certificate) (s : Certificate)
    (path : List Certificate) (root : Certificate) : Prop :=
  ∃ top, Climbed p t candidates [s.fingerprint] s path top ∧
    endingAt p t candidates top = .root root

variable {p : Provider} {t t' : Instant} {candidates : List Certificate}
variable {s c d root root' top : Certificate} {path path' : List Certificate}

/-! ## Standing -/

theorem standingAt_eq_valid_iff :
    standingAt c t = .valid ↔ t ∈ period c ∧ unrecognizedExtension? c = none := by
  unfold standingAt period
  rw [Set.mem_Icc]
  by_cases hfirst : t < .ofSeconds c.validity.notBefore
  · rw [if_pos hfirst]
    simp [Int.not_le.mpr hfirst]
  · by_cases hlast : .ofSeconds c.validity.notAfter < t
    · rw [if_neg hfirst, if_pos hlast]
      simp [Int.not_le.mpr hlast]
    · rw [if_neg hfirst, if_neg hlast]
      have hperiod := And.intro (Int.not_lt.mp hfirst) (Int.not_lt.mp hlast)
      cases unrecognizedExtension? c with
      | none => simp [hperiod]
      | some e => simp

theorem standingAt_of_mem_period (h : standingAt c t = .valid) (ht' : t' ∈ period c) :
    standingAt c t' = .valid :=
  standingAt_eq_valid_iff.mpr ⟨ht', (standingAt_eq_valid_iff.mp h).2⟩

theorem standingAt_of_step (h : step p t candidates s = .ok (some c)) : standingAt s t = .valid :=
  (validateHop_eq_valid_iff.mp (validateHop_of_step h)).2.2

/-! ## Steps at two instants -/

theorem firstVoucher_eq_of_standing (h : standingAt s t = .valid) (h' : standingAt s t' = .valid)
    (cs : List Certificate) : firstVoucher p t s cs = firstVoucher p t' s cs := by
  induction cs with
  | nil => rfl
  | cons c rest ih =>
    have hhop : validateHop p t s c = validateHop p t' s c := by
      unfold validateHop
      rw [h, h']
    unfold firstVoucher
    rw [hhop, ih]

theorem step_eq_of_standing (h : standingAt s t = .valid) (h' : standingAt s t' = .valid) :
    step p t candidates s = step p t' candidates s :=
  firstVoucher_eq_of_standing h h' candidates.reverse

theorem step_unique (h : step p t candidates s = .ok (some c))
    (h' : step p t' candidates s = .ok (some d)) : c = d := by
  rw [step_eq_of_standing (standingAt_of_step h) (standingAt_of_step h'), h'] at h
  cases h
  rfl

/-! ## Walks at two instants -/

theorem reachesRoot_nil_iff :
    ReachesRoot p t candidates s [] root ↔
      step p t candidates s = .ok (some root) ∧ (isSelfSigned p root).outcome = .ok true := by
  constructor
  · rintro ⟨top, h, hstep, hself⟩
    cases h
    exact ⟨hstep, hself⟩
  · rintro ⟨hstep, hself⟩
    exact ⟨s, .refl s, hstep, hself⟩

theorem reachesRoot_cons_iff :
    ReachesRoot p t candidates s (c :: path) root ↔
      ClimbsTo p t candidates s c ∧ ReachesRoot p t candidates c path root := by
  constructor
  · rintro ⟨top, h, hstep, hself⟩
    cases h with
    | climb first rest => exact ⟨first, top, rest, hstep, hself⟩
  · rintro ⟨first, top, rest, hstep, hself⟩
    exact ⟨top, .climb first rest, hstep, hself⟩

/-- Two walks that reach a root, at whatever instants, are the same. -/
theorem ReachesRoot.unique (h : ReachesRoot p t candidates s path root)
    (h' : ReachesRoot p t' candidates s path' root') : path = path' ∧ root = root' := by
  induction path generalizing s path' with
  | nil =>
    obtain ⟨hstep, hself⟩ := reachesRoot_nil_iff.mp h
    cases path' with
    | nil => exact ⟨rfl, step_unique hstep (reachesRoot_nil_iff.mp h').1⟩
    | cons c' path' =>
      obtain ⟨first', -⟩ := reachesRoot_cons_iff.mp h'
      rw [step_unique hstep first'.1, first'.2] at hself
      cases hself
  | cons c path ih =>
    obtain ⟨first, rest⟩ := reachesRoot_cons_iff.mp h
    cases path' with
    | nil =>
      obtain ⟨hstep', hself'⟩ := reachesRoot_nil_iff.mp h'
      rw [← step_unique first.1 hstep', first.2] at hself'
      cases hself'
    | cons c' path' =>
      obtain ⟨first', rest'⟩ := reachesRoot_cons_iff.mp h'
      obtain rfl := step_unique first.1 first'.1
      obtain ⟨hpath, hroot⟩ := ih rest rest'
      exact ⟨by rw [hpath], hroot⟩

/-- All certificates of an ascent are in good standing if the last one is. -/
theorem Ascent.standing (h : Ascent p t candidates s path top) (htop : standingAt top t = .valid) :
    ∀ d ∈ s :: path, standingAt d t = .valid := by
  induction h with
  | refl s =>
    intro d hd
    rw [List.mem_singleton.mp hd]
    exact htop
  | climb first _ ih =>
    intro d hd
    rcases List.mem_cons.mp hd with rfl | hd
    · exact standingAt_of_step first.1
    · exact ih htop d hd

theorem Ascent.of_standing (h : Ascent p t candidates s path top)
    (hs' : ∀ d ∈ s :: path, standingAt d t' = .valid) : Ascent p t' candidates s path top := by
  induction h with
  | refl s => exact .refl s
  | @climb s c top path first _ ih =>
    have hs := hs' s List.mem_cons_self
    have hstep : step p t' candidates s = .ok (some c) := by
      rw [step_eq_of_standing hs (standingAt_of_step first.1)]
      exact first.1
    exact .climb ⟨hstep, first.2⟩ (ih fun d hd => hs' d (List.mem_cons_of_mem s hd))

/-! ## Climbs at two instants -/

theorem validate_outcome_eq_true_iff :
    (validate p t s candidates).outcome = .ok true ↔
      ∃ path root, Accepts p t candidates s path root := by
  constructor
  · intro hout
    obtain ⟨path, top, h, hending⟩ := climb_ends p t candidates [s.fingerprint] s
    rw [validate, hending] at hout
    obtain ⟨root, hroot⟩ := outcome_endingAt_eq_true_iff.mp hout
    exact ⟨path, root, top, h, endingAt_eq_root_iff.mpr hroot⟩
  · rintro ⟨path, root, top, h, hending⟩
    rw [validate, h.outcome, hending, Ending.outcome]

theorem Accepts.reachesRoot (h : Accepts p t candidates s path root) :
    ReachesRoot p t candidates s path root := by
  obtain ⟨top, h, hending⟩ := h
  exact ⟨top, h.ascent, endingAt_eq_root_iff.mp hending⟩

theorem Accepts.standing (h : Accepts p t candidates s path root) :
    ∀ c ∈ s :: path, standingAt c t = .valid := by
  obtain ⟨top, hascent, hstep, -⟩ := h.reachesRoot
  exact hascent.standing (standingAt_of_step hstep)

/-- The same climb at another instant within all periods: the guard finds the same fingerprints. -/
theorem Accepts.of_standing (h : Accepts p t candidates s path root)
    (hs' : ∀ c ∈ s :: path, standingAt c t' = .valid) : Accepts p t' candidates s path root := by
  obtain ⟨top, h, hending⟩ := h
  obtain ⟨hstep, hself⟩ := endingAt_eq_root_iff.mp hending
  have htop : standingAt top t' = .valid := hs' top h.ascent.top_mem_path
  have hending' : endingAt p t' candidates top = .root root := by
    refine endingAt_eq_root_iff.mpr ⟨?_, hself⟩
    rw [step_eq_of_standing htop (standingAt_of_step hstep)]
    exact hstep
  refine ⟨top, ⟨h.ascent.of_standing hs', h.nodup, h.fresh, fun c hc => ?_⟩, hending'⟩
  rw [hending'] at hc
  cases hc

theorem Accepts.iff_mem_period (h : Accepts p t candidates s path root) :
    Accepts p t' candidates s path root ↔ ∀ c ∈ s :: path, t' ∈ period c := by
  constructor
  · intro h' c hc
    exact (standingAt_eq_valid_iff.mp (h'.standing c hc)).1
  · intro hperiod
    refine h.of_standing fun c hc => ?_
    exact standingAt_of_mem_period (h.standing c hc) (hperiod c hc)

theorem Accepts.root_notMem (h : Accepts p t candidates s path root) : root ∉ path := by
  intro hmem
  obtain ⟨top, hascent, -, hself⟩ := h.reachesRoot
  rw [(hascent.mem hmem).2] at hself
  cases hself

/-! ## The interval -/

theorem exists_Icc_eq_periods (s : Certificate) (path : List Certificate) :
    ∃ first last : Instant, Set.Icc first last = ⋂ c ∈ s :: path, period c := by
  induction path generalizing s with
  | nil =>
    refine ⟨.ofSeconds s.validity.notBefore, .ofSeconds s.validity.notAfter, ?_⟩
    ext t
    rw [Set.mem_iInter₂, List.forall_mem_singleton, period]
  | cons c path ih =>
    obtain ⟨first, last, h⟩ := ih c
    refine ⟨max (.ofSeconds s.validity.notBefore) first, min (.ofSeconds s.validity.notAfter) last, ?_⟩
    have hsplit : ⋂ d ∈ s :: c :: path, period d = period s ∩ ⋂ d ∈ c :: path, period d := by
      ext t
      rw [Set.mem_inter_iff, Set.mem_iInter₂, Set.mem_iInter₂, List.forall_mem_cons]
    rw [hsplit, ← h, period, Set.Icc_inter_Icc]

/-- **A validation accepts during one closed interval**, and takes the same path all the while. -/
theorem validate_accepts_iff_mem_Icc (p : Provider) (s : Certificate)
    (candidates : List Certificate) :
    ∃ first last : Instant,
      (∀ t, (validate p t s candidates).outcome = .ok true ↔ t ∈ Set.Icc first last) ∧
      ((Set.Icc first last).Nonempty → ∃ path root,
        Set.Icc first last = ⋂ c ∈ s :: path, period c ∧ root ∉ path ∧
        ∀ t ∈ Set.Icc first last, ∀ path' root',
          Accepts p t candidates s path' root' ↔ path' = path ∧ root' = root) := by
  by_cases hever : ∃ t, (validate p t s candidates).outcome = .ok true
  · obtain ⟨t₀, h₀⟩ := hever
    obtain ⟨path, root, hroot⟩ := validate_outcome_eq_true_iff.mp h₀
    obtain ⟨first, last, hI⟩ := exists_Icc_eq_periods s path
    have hmem : ∀ t, Accepts p t candidates s path root ↔ t ∈ Set.Icc first last := by
      intro t
      rw [hroot.iff_mem_period, hI, Set.mem_iInter₂]
    have honly : ∀ t path' root', Accepts p t candidates s path' root' →
        path' = path ∧ root' = root := by
      intro t path' root' h
      exact h.reachesRoot.unique hroot.reachesRoot
    refine ⟨first, last, fun t => ?_, fun _ => ⟨path, root, hI, hroot.root_notMem, ?_⟩⟩
    · rw [validate_outcome_eq_true_iff, ← hmem]
      constructor
      · rintro ⟨path', root', h⟩
        obtain ⟨rfl, rfl⟩ := honly t path' root' h
        exact h
      · intro h
        exact ⟨path, root, h⟩
    · intro t ht path' root'
      constructor
      · exact honly t path' root'
      · rintro ⟨rfl, rfl⟩
        exact (hmem t).mpr ht
  · have hempty : Set.Icc (1 : Instant) 0 = ∅ := Set.Icc_eq_empty (by decide)
    refine ⟨1, 0, fun t => ?_, fun hne => ?_⟩
    · rw [hempty]
      exact iff_of_false (not_exists.mp hever t) (Set.notMem_empty t)
    · rw [hempty] at hne
      exact absurd hne Set.not_nonempty_empty

theorem accepts_leaf :
    Accepts .standard 1600000000000000000 [rootCertificate] leafCertificate [] rootCertificate := by
  have hending : endingAt .standard 1600000000000000000 [rootCertificate] leafCertificate =
      .root rootCertificate := endingAt_eq_root_iff.mpr ⟨step_leaf, isSelfSigned_root⟩
  refine ⟨leafCertificate, .here fun c hc => ?_, hending⟩
  rw [hending] at hc
  cases hc

/-- The leaf is accepted up to the end of 2049, and not a nanosecond longer. -/
theorem validate_leaf_at_last :
    (validate .standard 2524607999000000000 leafCertificate [rootCertificate]).outcome = .ok true ∧
      (validate .standard 2524607999000000001 leafCertificate [rootCertificate]).outcome ≠
        .ok true := by
  obtain ⟨first, last, hI, hpath⟩ :=
    validate_accepts_iff_mem_Icc .standard leafCertificate [rootCertificate]
  have h₀ := (hI 1600000000000000000).mp validate_leaf
  obtain ⟨path, root, hperiods, -, honly⟩ := hpath ⟨_, h₀⟩
  obtain ⟨rfl, -⟩ := (honly _ h₀ [] rootCertificate).mp accepts_leaf
  have hvalidity : leafCertificate.validity = ⟨1577836800, 2524607999⟩ := by decide +kernel
  have hmem : ∀ t, (validate .standard t leafCertificate [rootCertificate]).outcome = .ok true ↔
      .ofSeconds 1577836800 ≤ t ∧ t ≤ .ofSeconds 2524607999 := by
    intro t
    rw [hI, hperiods, Set.mem_iInter₂, List.forall_mem_singleton, period, hvalidity, Set.mem_Icc]
    rfl
  rw [Ne, hmem, hmem]
  decide

end ChainOfTrust.Chain
