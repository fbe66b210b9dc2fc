import ChainOfTrust.Crypto.Standard
import ChainOfTrust.Proofs.Certificate.SignedPart
import ChainOfTrust.Proofs.Chain.Ascent

/-!
# How a climb ends

* `Ending`, `endingAt` : what happens at a certificate that the climb does not get past;
* `climb_ends` : a climb is an ascent through certificates with new fingerprints, and an ending;
* `Fate s r` : the outcome of the unguarded ascent from `s`, `false` where it comes back to one of its
  certificates. No certificate has two of them (`Fate.unique`);
* `validate_outcome_iff` : if fingerprints tell the certificates apart, the outcome of a validation is
  the fate of its subject.
-/

namespace ChainOfTrust.Chain

set_option autoImplicit false

inductive Ending where
  | root (r : Certificate)
  | noIssuer
  /-- The next certificate was climbed through before. -/
  | cycle (c : Certificate)
  | fault (fault : TrustError)

def Ending.outcome : Ending → Except TrustError Bool
  | root _ => .ok true
  | noIssuer => .ok false
  | cycle _ => .ok false
  | fault e => .error e

section Ends
variable (p : Provider) (t : Instant) (candidates : List Certificate)

/-- What happens at `top` if the climb does not get past it. -/
def endingAt (top : Certificate) : Ending :=
  match step p t candidates top with
  | .error fault => .fault fault
  | .ok none => .noIssuer
  | .ok (some c) =>
    match (isSelfSigned p c).outcome with
    | .error fault => .fault fault
    | .ok true => .root c
    | .ok false => .cycle c

/-- The outcome of the unguarded ascent from `s`. -/
def Fate (s : Certificate) (r : Except TrustError Bool) : Prop :=
  ∃ path top, Ascent p t candidates s path top ∧
    (∀ c, endingAt p t candidates top = .cycle c → c ∈ s :: path) ∧
    (endingAt p t candidates top).outcome = r

end Ends

variable {p : Provider} {t : Instant} {candidates : List Certificate}
variable {s c top top' : Certificate} {path path' : List Certificate} {visited : List Bytes}
variable {r r' : Except TrustError Bool}

/-! ## Endings -/

theorem endingAt_eq_cycle_iff :
    endingAt p t candidates top = .cycle c ↔ ClimbsTo p t candidates top c := by
  unfold endingAt ClimbsTo
  rcases step p t candidates top with e | _ | d
  · simp
  · simp
  · simp only [Except.ok.injEq, Option.some.injEq]
    constructor
    · intro h
      split at h
      · cases h
      · cases h
      · rename_i hself
        cases h
        exact ⟨rfl, hself⟩
    · rintro ⟨rfl, hself⟩
      rw [hself]

theorem endingAt_eq_root_iff :
    endingAt p t candidates top = .root c ↔
      step p t candidates top = .ok (some c) ∧ (isSelfSigned p c).outcome = .ok true := by
  unfold endingAt
  rcases step p t candidates top with e | _ | d
  · simp
  · simp
  · simp only [Except.ok.injEq, Option.some.injEq]
    constructor
    · intro h
      split at h
      · cases h
      · rename_i hself
        cases h
        exact ⟨rfl, hself⟩
      · cases h
    · rintro ⟨rfl, hself⟩
      rw [hself]

theorem outcome_endingAt_eq_true_iff :
    (endingAt p t candidates top).outcome = .ok true ↔
      ∃ c, step p t candidates top = .ok (some c) ∧ (isSelfSigned p c).outcome = .ok true := by
  unfold endingAt
  rcases step p t candidates top with e | _ | d
  · simp [Ending.outcome]
  · simp [Ending.outcome]
  · rcases h : (isSelfSigned p d).outcome with e | _ | _ <;> simp [Ending.outcome, h]

theorem outcome_endingAt_eq_error_iff {e : TrustError} :
    (endingAt p t candidates top).outcome = .error e ↔
      step p t candidates top = .error e ∨
        ∃ c, step p t candidates top = .ok (some c) ∧ (isSelfSigned p c).outcome = .error e := by
  unfold endingAt
  rcases step p t candidates top with e | _ | d
  · simp [Ending.outcome]
  · simp [Ending.outcome]
  · rcases h : (isSelfSigned p d).outcome with e | _ | _ <;> simp [Ending.outcome, h]

theorem outcome_endingAt_eq_false_iff :
    (endingAt p t candidates top).outcome = .ok false ↔
      step p t candidates top = .ok none ∨ ∃ c, endingAt p t candidates top = .cycle c := by
  unfold endingAt
  rcases step p t candidates top with e | _ | d
  · simp [Ending.outcome]
  · simp [Ending.outcome]
  · rcases h : (isSelfSigned p d).outcome with e | _ | _ <;> simp [Ending.outcome, h]

theorem halted_iff :
    Halted p t candidates top ↔ ∀ c, endingAt p t candidates top ≠ .cycle c :=
  forall_congr' fun _ => not_congr endingAt_eq_cycle_iff.symm

/-! ## The climb -/

theorem climbsTo_of_scan
    (h : (scan p t s candidates.reverse).outcome = .ok (some (.issuer c))) :
    ClimbsTo p t candidates s c := by
  rw [scan_outcome] at h
  rcases hfirst : firstVoucher p t s candidates.reverse with e | _ | d
  · rw [hfirst] at h
    cases h
  · rw [hfirst] at h
    cases h
  · rw [hfirst] at h
    obtain ⟨rfl, hself⟩ := eq_of_linkTo_issuer h
    exact ⟨hfirst, hself⟩

/-- One certificate of a climb: its ending, unless the guard finds the next certificate new. -/
theorem climb_outcome_eq_endingAt (visited : List Bytes) (s : Certificate) :
    (climb p t candidates visited s).outcome =
      match endingAt p t candidates s with
      | .cycle c =>
        if c.fingerprint ∈ visited then .ok false
        else (climb p t candidates (c.fingerprint :: visited) c).outcome
      | ending => ending.outcome := by
  rw [climb_outcome]
  unfold endingAt
  rcases step p t candidates s with e | _ | c
  · rfl
  · rfl
  · simp only
    rcases (isSelfSigned p c).outcome with e | _ | _ <;> rfl

variable (p t candidates) in
/-- Either the guard lets the climb go on, or it ends here. -/
theorem rises_or_stuck (visited : List Bytes) (s : Certificate) :
    (∃ c, ClimbsTo p t candidates s c ∧ c.fingerprint ∉ visited) ∨
      ∀ c, endingAt p t candidates s = .cycle c → c.fingerprint ∈ visited := by
  by_cases h : ∃ c, ClimbsTo p t candidates s c ∧ c.fingerprint ∉ visited
  · exact Or.inl h
  · refine Or.inr fun c hc => ?_
    by_contra hv
    exact h ⟨c, endingAt_eq_cycle_iff.mp hc, hv⟩

theorem climb_outcome_of_climbsTo (h : ClimbsTo p t candidates s c) (hv : c.fingerprint ∉ visited) :
    (climb p t candidates visited s).outcome =
      (climb p t candidates (c.fingerprint :: visited) c).outcome := by
  rw [climb_outcome_eq_endingAt, endingAt_eq_cycle_iff.mpr h]
  simp only [if_neg hv]

theorem climb_outcome_of_stuck
    (h : ∀ c, endingAt p t candidates s = .cycle c → c.fingerprint ∈ visited) :
    (climb p t candidates visited s).outcome = (endingAt p t candidates s).outcome := by
  rw [climb_outcome_eq_endingAt]
  cases hending : endingAt p t candidates s with
  | cycle c =>
    simp only [if_pos (h c hending)]
    rfl
  | _ => rfl

variable (p t candidates) in
/-- Induction along a climb: each certificate climbed to has a fingerprint that is new. -/
@[elab_as_elim]
theorem climb_induction {motive : List Bytes → Certificate → Prop}
    (rise : ∀ visited s, (∀ c, ClimbsTo p t candidates s c → c.fingerprint ∉ visited →
      motive (c.fingerprint :: visited) c) → motive visited s)
    (visited : List Bytes) (s : Certificate) : motive visited s := by
  induction hn : unvisited candidates visited using Nat.strongRecOn generalizing visited s with
  | ind n ih =>
    subst hn
    refine rise visited s fun c hc hv => ?_
    exact ih _ (unvisited_cons_lt (mem_of_step hc.1) hv) (c.fingerprint :: visited) c rfl

/-- What a climb from `s` goes through: an ascent to certificates whose fingerprints are new, up to
one that it does not get past, be it for a fingerprint that is not new. -/
structure Climbed (p : Provider) (t : Instant) (candidates : List Certificate)
    (visited : List Bytes) (s : Certificate) (path : List Certificate) (top : Certificate) :
    Prop where
  ascent : Ascent p t candidates s path top
  nodup : (path.map Certificate.fingerprint).Nodup
  fresh : ∀ c ∈ path, c.fingerprint ∉ visited
  cycle : ∀ c, endingAt p t candidates top = .cycle c →
    c.fingerprint ∈ visited ∨ c.fingerprint ∈ path.map Certificate.fingerprint

theorem Climbed.here
    (hcycle : ∀ c, endingAt p t candidates s = .cycle c → c.fingerprint ∈ visited) :
    Climbed p t candidates visited s [] s where
  ascent := .refl s
  nodup := List.nodup_nil
  fresh _ hc := (List.not_mem_nil hc).elim
  cycle c hc := Or.inl (hcycle c hc)

theorem Climbed.rise (hclimb : ClimbsTo p t candidates s c) (hv : c.fingerprint ∉ visited)
    (h : Climbed p t candidates (c.fingerprint :: visited) c path top) :
    Climbed p t candidates visited s (c :: path) top where
  ascent := .climb hclimb h.ascent
  nodup := by
    rw [List.map_cons, List.nodup_cons]
    refine ⟨fun hc => ?_, h.nodup⟩
    obtain ⟨d, hd, hdc⟩ := List.mem_map.mp hc
    exact h.fresh d hd (hdc ▸ List.mem_cons_self)
  fresh := by
    intro d hd
    rcases List.mem_cons.mp hd with rfl | hd
    · exact hv
    · exact fun hdv => h.fresh d hd (List.mem_cons_of_mem _ hdv)
  cycle := by
    intro d hd
    have := h.cycle d hd
    rw [List.mem_cons] at this
    rw [List.map_cons, List.mem_cons]
    rcases this with (hdc | hdv) | hdp
    · exact Or.inr (Or.inl hdc)
    · exact Or.inl hdv
    · exact Or.inr (Or.inr hdp)

variable (p t candidates) in
/-- **A climb is a fresh ascent and an ending.** -/
theorem climb_ends (visited : List Bytes) (s : Certificate) :
    ∃ path top, Climbed p t candidates visited s path top ∧
      (climb p t candidates visited s).outcome = (endingAt p t candidates top).outcome := by
  induction visited, s using climb_induction p t candidates with
  | rise visited s ih =>
    rcases rises_or_stuck p t candidates visited s with ⟨c, hclimb, hv⟩ | hstuck
    · obtain ⟨path, top, hclimbed, hout⟩ := ih c hclimb hv
      rw [climb_outcome_of_climbsTo hclimb hv]
      exact ⟨c :: path, top, hclimbed.rise hclimb hv, hout⟩
    · exact ⟨[], s, .here hstuck, climb_outcome_of_stuck hstuck⟩

theorem Climbed.tail (h : Climbed p t candidates visited s (c :: path) top)
    (rest : Ascent p t candidates c path top) :
    Climbed p t candidates (c.fingerprint :: visited) c path top where
  ascent := rest
  nodup := (List.nodup_cons.mp h.nodup).2
  fresh := by
    intro d hd hseen
    rcases List.mem_cons.mp hseen with hdc | hdv
    · exact (List.nodup_cons.mp h.nodup).1 (hdc ▸ List.mem_map_of_mem hd)
    · exact h.fresh d (List.mem_cons_of_mem _ hd) hdv
  cycle := by
    intro d hd
    have hseen := h.cycle d hd
    rw [List.map_cons, List.mem_cons] at hseen
    rw [List.mem_cons]
    rcases hseen with hdv | hdc | hdp
    · exact Or.inl (Or.inr hdv)
    · exact Or.inl (Or.inl hdc)
    · exact Or.inr hdp

/-- The converse of `climb_ends`: what a climb goes through fixes its outcome. -/
theorem Climbed.outcome (h : Climbed p t candidates visited s path top) :
    (climb p t candidates visited s).outcome = (endingAt p t candidates top).outcome := by
  have hascent := h.ascent
  induction hascent generalizing visited with
  | refl s =>
    refine climb_outcome_of_stuck fun c hc => ?_
    exact (h.cycle c hc).resolve_right List.not_mem_nil
  | climb first rest ih =>
    rw [climb_outcome_of_climbsTo first (h.fresh _ List.mem_cons_self)]
    exact ih (h.tail rest)

theorem Climbed.path_le (h : Climbed p t candidates visited s path top)
    (h' : Climbed p t candidates visited s path' top') (hle : path.length ≤ path'.length) :
    path = path' ∧ top = top' := by
  obtain ⟨rest, rfl, hrest⟩ := h.ascent.comparable h'.ascent hle
  cases hrest with
  | refl => exact ⟨(List.append_nil path).symm, rfl⟩
  | @climb _ c _ rest hclimb _ =>
    -- the guard stops one climb at `c` and lets the other go on to it
    have hfresh := h'.fresh c (by simp)
    have hnodup := h'.nodup
    rw [List.map_append, List.map_cons, List.nodup_append] at hnodup
    rcases h.cycle c (endingAt_eq_cycle_iff.mpr hclimb) with hc | hc
    · exact absurd hc hfresh
    · exact absurd rfl (hnodup.2.2 _ hc _ List.mem_cons_self)

theorem Climbed.unique (h : Climbed p t candidates visited s path top)
    (h' : Climbed p t candidates visited s path' top') : path = path' ∧ top = top' := by
  rcases Nat.le_total path.length path'.length with hle | hle
  · exact h.path_le h' hle
  · obtain ⟨hpath, htop⟩ := h'.path_le h hle
    exact ⟨hpath.symm, htop.symm⟩

/-! ## Fates -/

/-- An ascent that comes back to one of its certificates goes round forever. -/
theorem circles_of_cycle (h : Ascent p t candidates s path top)
    (hending : endingAt p t candidates top = .cycle c) (hc : c ∈ s :: path) :
    Circles p t candidates s := by
  have hback : Ascent p t candidates top [c] c := .single (endingAt_eq_cycle_iff.mp hending)
  rcases List.mem_cons.mp hc with rfl | hc
  · exact circles_iff.mpr ⟨[], c, path ++ [c], .refl c, h.trans hback, by simp⟩
  · obtain ⟨before, after, rfl, -, hbefore, hafter⟩ := h.split hc
    exact circles_iff.mpr ⟨before, c, after ++ [c], hbefore, hafter.trans hback, by simp⟩

/-- Either an ascent halts, or it comes back and the walk goes round forever. -/
theorem halted_or_circles (h : Ascent p t candidates s path top)
    (hcycle : ∀ c, endingAt p t candidates top = .cycle c → c ∈ s :: path) :
    Halted p t candidates top ∨
      (endingAt p t candidates top).outcome = .ok false ∧ Circles p t candidates s := by
  by_cases hc : ∃ c, endingAt p t candidates top = .cycle c
  · obtain ⟨c, hc⟩ := hc
    exact Or.inr ⟨by rw [hc, Ending.outcome], circles_of_cycle h hc (hcycle c hc)⟩
  · exact Or.inl (halted_iff.mpr (not_exists.mp hc))

theorem Fate.unique (h : Fate p t candidates s r) (h' : Fate p t candidates s r') : r = r' := by
  obtain ⟨path, top, hpath, hcycle, rfl⟩ := h
  obtain ⟨path', top', hpath', hcycle', rfl⟩ := h'
  rcases halted_or_circles hpath hcycle with hhalt | ⟨hfalse, hround⟩
  · rcases halted_or_circles hpath' hcycle' with hhalt' | ⟨-, hround'⟩
    · obtain ⟨-, rfl⟩ := hpath.unique hhalt hpath' hhalt'
      rfl
    · exact absurd hhalt (hround'.not_halted hpath)
  · rcases halted_or_circles hpath' hcycle' with hhalt' | ⟨hfalse', -⟩
    · exact absurd hhalt' (hround.not_halted hpath')
    · rw [hfalse, hfalse']

/-- SHA-256 does not collide on these certificates. -/
def Distinguished (cs : List Certificate) : Prop :=
  ∀ c ∈ cs, ∀ d ∈ cs, c.fingerprint = d.fingerprint → c = d

theorem Distinguished.mono {cs ds : List Certificate} (h : Distinguished cs)
    (hsub : ∀ c ∈ ds, c ∈ cs) : Distinguished ds :=
  fun c hc d hd => h c (hsub c hc) d (hsub d hd)

/-- It is enough to look at a part of the fingerprints. -/
theorem distinguished_of_nodup {α : Type} (part : Bytes → α) {cs : List Certificate}
    (h : (cs.map fun c => part c.fingerprint).Nodup) : Distinguished cs :=
  fun _ hc _ hd hcd => List.inj_on_of_nodup_map h hc hd (congrArg part hcd)

theorem validate_fate (hC : Distinguished (s :: candidates)) :
    Fate p t candidates s (validate p t s candidates).outcome := by
  obtain ⟨path, top, h, hout⟩ := climb_ends p t candidates [s.fingerprint] s
  refine ⟨path, top, h.ascent, fun c hending => ?_, hout.symm⟩
  have hpath : ∀ d ∈ s :: path, d ∈ s :: candidates := by
    intro d hd
    rcases List.mem_cons.mp hd with rfl | hd
    · exact List.mem_cons_self
    · exact List.mem_cons_of_mem _ (h.ascent.mem hd).1
  have hc : c ∈ s :: candidates :=
    List.mem_cons_of_mem _ (mem_of_step (endingAt_eq_cycle_iff.mp hending).1)
  -- the fingerprint that was found is that of a certificate of the ascent
  have hseen : ∃ d ∈ s :: path, d.fingerprint = c.fingerprint := by
    rcases h.cycle c hending with hv | hv
    · exact ⟨s, List.mem_cons_self, (List.mem_singleton.mp hv).symm⟩
    · obtain ⟨d, hd, hdc⟩ := List.mem_map.mp hv
      exact ⟨d, List.mem_cons_of_mem _ hd, hdc⟩
  obtain ⟨d, hd, hdc⟩ := hseen
  exact hC d (hpath d hd) c hc hdc ▸ hd

/-- **The outcome of a validation is the fate of its subject.** -/
theorem validate_outcome_iff (hC : Distinguished (s :: candidates)) :
    (validate p t s candidates).outcome = r ↔ Fate p t candidates s r := by
  constructor
  · rintro rfl
    exact validate_fate hC
  · exact fun h => (validate_fate hC).unique h

/-! ## A root and a leaf -/

/-- In September 2020 the root vouches for the leaf. -/
theorem step_leaf :
    step .standard 1600000000000000000 [rootCertificate] leafCertificate =
      .ok (some rootCertificate) := by
  have hhop : validateHop .standard 1600000000000000000 leafCertificate rootCertificate =
      .ok .valid := by decide +kernel
  rw [step, List.reverse_singleton, firstVoucher, hhop]

theorem isSelfSigned_root : (isSelfSigned .standard rootCertificate).outcome = .ok true := by
  decide +kernel

theorem validate_leaf :
    (validate .standard 1600000000000000000 leafCertificate [rootCertificate]).outcome =
      .ok true := by
  rw [validate, climb_outcome, step_leaf]
  simp only [isSelfSigned_root]

end ChainOfTrust.Chain
