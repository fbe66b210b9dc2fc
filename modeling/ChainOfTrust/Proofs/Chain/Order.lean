import Mathlib.Data.List.Dedup
import ChainOfTrust.Proofs.Chain.Lockstep

/-!
# The order of the candidates

A scan passes over each candidate that does not bear the issuer's name, and finds nothing new in one
that it has seen before.

* `bears n c` : the subject of `c` is `n`, as names are compared;
* `named n cs` : the candidates with the name `n`, each at its last place only;
* `Reached s pool n` : the name `n` comes up on the way from `s` through issuers among `pool`;
* `step_named` : a step looks at the candidates with the issuer's name, each at its last place;
* `validate_outcome_eq_of_named` : lists that agree on each name that is reached give the same
  outcome.
-/

namespace ChainOfTrust.Chain

set_option autoImplicit false

open X509 (Name)

def bears (n : Name) (c : Certificate) : Bool := n.agrees c.subject

def named (n : Name) (cs : List Certificate) : List Certificate := (cs.filter (bears n)).dedup

/-- The least set of names that holds the issuer of `s` and, with the name of a certificate of `pool`,
the name of its issuer. -/
inductive Reached (s : Certificate) (pool : List Certificate) : Name → Prop
  | issuer : Reached s pool s.issuer
  | above {n : Name} {c : Certificate} (below : Reached s pool n) (hc : c ∈ pool)
      (hname : bears n c = true) : Reached s pool c.issuer

variable {p : Provider} {t : Instant} {cs cs' pool before after : List Certificate}
variable {s c d : Certificate} {n : Name}

/-! ## Steps -/

theorem validateHop_of_not_bears (h : ¬ bears s.issuer c = true) :
    validateHop p t s c = .ok .noMatch := by
  unfold validateHop
  unfold bears at h
  simp [h]

theorem firstVoucher_filter (cs : List Certificate) :
    firstVoucher p t s (cs.filter (bears s.issuer)) = firstVoucher p t s cs := by
  induction cs with
  | nil => rfl
  | cons c rest ih =>
    by_cases hname : bears s.issuer c = true
    · rw [List.filter_cons_of_pos hname, firstVoucher, firstVoucher, ih]
    · rw [List.filter_cons_of_neg hname, ih, firstVoucher, validateHop_of_not_bears hname]

theorem firstVoucher_concat_of_mem (h : c ∈ cs) :
    firstVoucher p t s (cs ++ [c]) = firstVoucher p t s cs := by
  rw [firstVoucher_append]
  rcases hcs : firstVoucher p t s cs with e | _ | d
  · rfl
  · have hc := firstVoucher_eq_none_iff.mp hcs c h
    exact firstVoucher_eq_none_iff.mpr (List.forall_mem_singleton.mpr hc)
  · rfl

theorem step_filter (cs : List Certificate) :
    step p t (cs.filter (bears s.issuer)) s = step p t cs s := by
  unfold step
  rw [← List.filter_reverse, firstVoucher_filter]

/-- The last place of a candidate is the first that a step comes to. -/
theorem step_dedup (cs : List Certificate) : step p t cs.dedup s = step p t cs s := by
  unfold step
  induction cs with
  | nil => rfl
  | cons c rest ih =>
    by_cases hc : c ∈ rest
    · rw [List.dedup_cons_of_mem hc, ih, List.reverse_cons,
        firstVoucher_concat_of_mem (List.mem_reverse.mpr hc)]
    · rw [List.dedup_cons_of_notMem hc, List.reverse_cons, List.reverse_cons, firstVoucher_append,
        firstVoucher_append, ih]

theorem step_named (cs : List Certificate) : step p t (named s.issuer cs) s = step p t cs s := by
  unfold named
  rw [step_dedup, step_filter]

/-! ## Validations -/

theorem Reached.of_climbsTo (h : Reached s pool c.issuer) (hpool : ∀ d ∈ cs, d ∈ pool)
    (hclimb : ClimbsTo p t cs c d) : Reached s pool d.issuer :=
  .above h (hpool d (mem_of_step hclimb.1))
    (validateHop_eq_valid_iff.mp (validateHop_of_step hclimb.1)).1

theorem validate_outcome_congr (h : ∀ n, Reached s (cs ++ cs') n → named n cs = named n cs') :
    (validate p t s cs).outcome = (validate p t s cs').outcome := by
  have hstep : ∀ c, Reached s (cs ++ cs') c.issuer → step p t cs c = step p t cs' c := by
    intro c hc
    rw [← step_named cs, ← step_named cs', h c.issuer hc]
  have halike : ∀ c, Reached s (cs ++ cs') c.issuer →
      (endingAt p t cs c).Alike (endingAt p t cs' c) := by
    intro c hc
    rw [endingAt_eq_of_step (hstep c hc)]
    exact .refl _
  refine climb_outcome_eq_of_alike halike ?_ [s.fingerprint] s .issuer
  intro c d hc hclimb
  exact hc.of_climbsTo (fun a ha => List.mem_append_left cs' ha) hclimb

/-! ## Lists that agree on names -/

theorem bears_of_agrees_eq_false (h : c.subject.agrees d.subject = false) (hc : bears n c = true) :
    ¬ bears n d = true := by
  unfold bears Name.agrees at hc ⊢
  unfold Name.agrees at h
  rw [decide_eq_true_eq] at hc ⊢
  rw [decide_eq_false_iff_not] at h
  intro hd
  exact h (hc.symm.trans hd)

theorem named_swap (h : c.subject.agrees d.subject = false) (n : Name) :
    named n (before ++ c :: d :: after) = named n (before ++ d :: c :: after) := by
  have hswap : (c :: d :: after).filter (bears n) = (d :: c :: after).filter (bears n) := by
    by_cases hc : bears n c = true
    · have hd := bears_of_agrees_eq_false h hc
      rw [List.filter_cons_of_pos hc, List.filter_cons_of_neg hd, List.filter_cons_of_neg hd,
        List.filter_cons_of_pos hc]
    · rw [List.filter_cons_of_neg hc, List.filter_cons, List.filter_cons, List.filter_cons_of_neg hc]
  unfold named
  rw [List.filter_append, List.filter_append, hswap]

theorem dedup_append_cons (h : c ∈ after) : (before ++ c :: after).dedup = (before ++ after).dedup := by
  rw [List.dedup_append, List.dedup_append, List.dedup_cons_of_mem h]

theorem named_duplicate (h : c ∈ after) (n : Name) :
    named n (before ++ c :: after) = named n (before ++ after) := by
  unfold named
  rw [List.filter_append, List.filter_append]
  by_cases hc : bears n c = true
  · rw [List.filter_cons_of_pos hc, dedup_append_cons (List.mem_filter.mpr ⟨h, hc⟩)]
  · rw [List.filter_cons_of_neg hc]

theorem named_unnamed (h : bears n c = false) :
    named n (before ++ c :: after) = named n (before ++ after) := by
  unfold named
  rw [List.filter_append, List.filter_append, List.filter_cons_of_neg (by rw [h]; exact nofun)]

/-- A certificate whose name is not reached leads to no other name. -/
theorem Reached.of_cons (h : ∀ n, Reached s pool n → bears n c = false)
    (hcs : ∀ d ∈ cs, d = c ∨ d ∈ pool) (hn : Reached s cs n) : Reached s pool n := by
  induction hn with
  | issuer => exact .issuer
  | above below hd hname ih =>
    rcases hcs _ hd with rfl | hd
    · rw [h _ ih] at hname
      cases hname
    · exact .above ih hd hname

/-- **Only candidates whose name is reached matter**, and of each name only the last places. -/
theorem validate_outcome_eq_of_named (p : Provider) (t : Instant) (s : Certificate) :
    (∀ cs cs', (∀ n, Reached s (cs ++ cs') n → named n cs = named n cs') →
      (validate p t s cs).outcome = (validate p t s cs').outcome) ∧
    (∀ before after c d, c.subject.agrees d.subject = false →
      (validate p t s (before ++ c :: d :: after)).outcome =
        (validate p t s (before ++ d :: c :: after)).outcome) ∧
    (∀ before after c, c ∈ after →
      (validate p t s (before ++ c :: after)).outcome =
        (validate p t s (before ++ after)).outcome) ∧
    ∀ before after c, (∀ n, Reached s (before ++ after) n → bears n c = false) →
      (validate p t s (before ++ c :: after)).outcome =
        (validate p t s (before ++ after)).outcome := by
  refine ⟨fun cs cs' h => validate_outcome_congr h, fun before after c d h => ?_,
    fun before after c h => ?_, fun before after c h => ?_⟩
  · exact validate_outcome_congr fun n _ => named_swap h n
  · exact validate_outcome_congr fun n _ => named_duplicate h n
  · refine validate_outcome_congr fun n hn => named_unnamed (h n (hn.of_cons h ?_))
    intro d hd
    simp only [List.mem_append, List.mem_cons] at hd ⊢
    tauto

/-! ## A leaf among the candidates -/

/-- From the leaf no name is reached but that of the root. -/
theorem bears_of_reached_leaf (h : Reached leafCertificate cs n)
    (hcs : ∀ c ∈ cs, c = rootCertificate ∨ c = leafCertificate) :
    bears n rootCertificate = true ∧ bears n leafCertificate = false := by
  have hleaf : bears leafCertificate.issuer rootCertificate = true ∧
      bears leafCertificate.issuer leafCertificate = false := by decide +kernel
  have hroot : bears rootCertificate.issuer rootCertificate = true ∧
      bears rootCertificate.issuer leafCertificate = false := by decide +kernel
  cases h with
  | issuer => exact hleaf
  | above below hc hname =>
    rcases hcs _ hc with hc | hc
    · rw [hc]
      exact hroot
    · rw [hc]
      exact hleaf

theorem validate_leaf_padded :
    (∀ n, Reached leafCertificate
        ([rootCertificate, leafCertificate, rootCertificate] ++ [rootCertificate]) n →
      named n [rootCertificate, leafCertificate, rootCertificate] = named n [rootCertificate]) ∧
    (validate .standard 1600000000000000000 leafCertificate
      [rootCertificate, leafCertificate, rootCertificate]).outcome = .ok true := by
  have hnamed : ∀ n, Reached leafCertificate
        ([rootCertificate, leafCertificate, rootCertificate] ++ [rootCertificate]) n →
      named n [rootCertificate, leafCertificate, rootCertificate] = named n [rootCertificate] := by
    intro n hn
    have hmem : ∀ c ∈ [rootCertificate, leafCertificate, rootCertificate] ++ [rootCertificate],
        c = rootCertificate ∨ c = leafCertificate := by
      intro c hc
      simp only [List.cons_append, List.nil_append, List.mem_cons, List.not_mem_nil, or_false] at hc
      rcases hc with hc | hc | hc | hc
      · exact Or.inl hc
      · exact Or.inr hc
      · exact Or.inl hc
      · exact Or.inl hc
    obtain ⟨hroot, hleaf⟩ := bears_of_reached_leaf hn hmem
    unfold named
    rw [List.filter_cons_of_pos hroot, List.filter_cons_of_neg (by rw [hleaf]; exact nofun),
      List.filter_cons_of_pos hroot, List.filter_nil,
      List.dedup_cons_of_mem (List.mem_singleton.mpr rfl)]
  refine ⟨hnamed, ?_⟩
  rw [(validate_outcome_eq_of_named .standard _ leafCertificate).1 _ _ hnamed]
  exact validate_leaf

end ChainOfTrust.Chain
