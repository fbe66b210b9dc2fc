import ChainOfTrust.Proofs.Chain.Faults
import ChainOfTrust.Proofs.Chain.Order

/-!
# Candidates of low priority

A scan stops at the last candidate that vouches. What stands in front of it is not looked at, so
candidates in front of all others of their name count only where a scan would have run out.

* `Merged added old all` : `all` is `old` with the certificates `added` put in, none of them behind a
  certificate of its name;
* `Exhausts s`, `Revisits s` : the two ways in which a climb from `s` ends at no root and no error;
* `scan_eq_of_merged` : a scan that finds something among `old` is the same among `all`;
* `validate_eq_of_merged` : so is a validation, unless it ends at a scan that runs out.
-/

namespace ChainOfTrust.Chain

set_option autoImplicit false

inductive Merged : List Certificate → List Certificate → List Certificate → Prop
  | nil : Merged [] [] []
  | new (d : Certificate) {added old all : List Certificate} (rest : Merged added old all) :
      Merged (d :: added) old (d :: all)
  | old (c : Certificate) {added old all : List Certificate}
      (hbehind : ∀ d ∈ added, c.subject.agrees d.subject = false) (rest : Merged added old all) :
      Merged added (c :: old) (c :: all)

section Ends
variable (p : Provider) (t : Instant) (candidates : List Certificate)

/-- The climb from `s` comes to a certificate for which no candidate vouches. -/
def Exhausts (s : Certificate) : Prop :=
  ∃ path top, Climbed p t candidates [s.fingerprint] s path top ∧ step p t candidates top = .ok none

/-- The climb from `s` comes to a certificate from which it would go back. -/
def Revisits (s : Certificate) : Prop :=
  ∃ path top c, Climbed p t candidates [s.fingerprint] s path top ∧
    endingAt p t candidates top = .cycle c

end Ends

variable {p : Provider} {t : Instant} {candidates added old all : List Certificate}
variable {s c : Certificate} {path : List Certificate} {visited : List Bytes}

/-! ## Lists put together -/

theorem merged_append (added old : List Certificate) : Merged added old (added ++ old) := by
  induction added with
  | nil =>
    induction old with
    | nil => exact .nil
    | cons c old ih => exact .old c (fun _ hd => (List.not_mem_nil hd).elim) ih
  | cons d added ih => exact .new d ih

/-- Among the candidates of one name the new ones come first. -/
theorem Merged.filter_bears (h : Merged added old all) (n : X509.Name) :
    all.filter (bears n) = (added ++ old).filter (bears n) := by
  induction h with
  | nil => rfl
  | new d _ ih => rw [List.cons_append, List.filter_cons, List.filter_cons, ih]
  | @old c added old all hbehind _ ih =>
    rw [List.filter_append] at ih ⊢
    by_cases hc : bears n c = true
    · have hnone : added.filter (bears n) = [] :=
        List.filter_eq_nil_iff.mpr fun d hd => bears_of_agrees_eq_false (hbehind d hd) hc
      rw [hnone, List.nil_append] at ih ⊢
      rw [List.filter_cons_of_pos hc, List.filter_cons_of_pos hc, ih]
    · rw [List.filter_cons_of_neg hc, List.filter_cons_of_neg hc, ih]

/-! ## Scans -/

theorem scan_filter (cs : List Certificate) :
    scan p t s (cs.filter (bears s.issuer)) = scan p t s cs := by
  induction cs with
  | nil => rfl
  | cons c rest ih =>
    by_cases hname : bears s.issuer c = true
    · rw [List.filter_cons_of_pos hname, scan, scan, ih]
    · rw [List.filter_cons_of_neg hname, ih, scan, validateHop_of_not_bears hname]

theorem step_eq_none_iff :
    step p t candidates s = .ok none ↔ (scan p t s candidates.reverse).outcome = .ok none := by
  rw [scan_outcome, step]
  rcases firstVoucher p t s candidates.reverse with e | _ | c
  · simp
  · simp
  · exact iff_of_false (by simp) linkTo_ne_none

theorem scan_eq_of_merged (h : Merged added old all) (hfound : step p t old s ≠ .ok none) :
    scan p t s all.reverse = scan p t s old.reverse := by
  have hscan : (scan p t s old.reverse).outcome ≠ .ok none := mt step_eq_none_iff.mpr hfound
  calc scan p t s all.reverse
    _ = scan p t s (all.filter (bears s.issuer)).reverse := by
      rw [← List.filter_reverse, scan_filter]
    _ = scan p t s (added ++ old).reverse := by
      rw [h.filter_bears, ← List.filter_reverse, scan_filter]
    _ = scan p t s old.reverse := by
      rw [List.reverse_append, scan_append _ hscan]

/-! ## Climbs -/

/-- The climb among `old` is the one among `all` if no scan of it runs out. -/
theorem climb_eq_of_merged (h : Merged added old all) (visited : List Bytes) (s : Certificate)
    (hfound : ∀ path top, Climbed p t old visited s path top → step p t old top ≠ .ok none) :
    climb p t all visited s = climb p t old visited s := by
  induction visited, s using climb_induction p t old with
  | rise visited s ih =>
    have hs : step p t old s ≠ .ok none := by
      intro hnone
      refine hfound [] s (.here fun c hc => ?_) hnone
      rw [(endingAt_eq_cycle_iff.mp hc).1] at hnone
      cases hnone
    rw [climb_eq all, climb_eq old, scan_eq_of_merged h hs]
    split
    · rfl
    · rfl
    · rfl
    · rename_i events c hscan
      have hclimb : ClimbsTo p t old s c := climbsTo_of_scan (by rw [hscan])
      split
      · rfl
      · rename_i hv
        rw [ih c hclimb hv fun path top hrest => hfound _ _ (hrest.rise hclimb hv)]

/-! ## Validations -/

theorem Revisits.not_exhausts (h : Revisits p t candidates s) : ¬ Exhausts p t candidates s := by
  rintro ⟨path', top', h', hnone⟩
  obtain ⟨path, top, c, h, hcycle⟩ := h
  obtain ⟨-, rfl⟩ := h.unique h'
  rw [(endingAt_eq_cycle_iff.mp hcycle).1] at hnone
  cases hnone

theorem Exhausts.outcome (h : Exhausts p t candidates s) :
    (validate p t s candidates).outcome = .ok false := by
  obtain ⟨path, top, h, hnone⟩ := h
  rw [validate, h.outcome]
  exact outcome_endingAt_eq_false_iff.mpr (Or.inl hnone)

theorem Revisits.outcome (h : Revisits p t candidates s) :
    (validate p t s candidates).outcome = .ok false := by
  obtain ⟨path, top, c, h, hcycle⟩ := h
  rw [validate, h.outcome]
  exact outcome_endingAt_eq_false_iff.mpr (Or.inr ⟨c, hcycle⟩)

theorem validate_eq_of_not_exhausts (h : Merged added old all) (hs : ¬ Exhausts p t old s) :
    validate p t s all = validate p t s old :=
  climb_eq_of_merged h [s.fingerprint] s fun path top hclimb hnone => hs ⟨path, top, hclimb, hnone⟩

/-- **A candidate in front of all others of its name revokes nothing**: it changes a validation only
where that ran out of candidates. -/
theorem validate_eq_of_merged (p : Provider) (t : Instant) (s : Certificate) :
    (∀ added old, Merged added old (added ++ old)) ∧
    ∀ added old all, Merged added old all →
      ((validate p t s old).outcome = .ok true ∨ (∃ e, (validate p t s old).outcome = .error e) ∨
        Revisits p t old s → validate p t s all = validate p t s old) ∧
      (validate p t s all ≠ validate p t s old →
        (validate p t s old).outcome = .ok false ∧ Exhausts p t old s) := by
  refine ⟨merged_append, fun added old all h => ⟨fun hends => ?_, fun hne => ?_⟩⟩
  · refine validate_eq_of_not_exhausts h fun hout => ?_
    rcases hends with htrue | ⟨e, herror⟩ | hback
    · rw [hout.outcome] at htrue
      cases htrue
    · rw [hout.outcome] at herror
      cases herror
    · exact hback.not_exhausts hout
  · have hout : Exhausts p t old s := by
      by_contra hnot
      exact hne (validate_eq_of_not_exhausts h hnot)
    exact ⟨hout.outcome, hout⟩

/-! ## A candidate that would be an error behind the root -/

theorem merged_md5Root :
    Merged [md5RootCertificate, leafCertificate] [rootCertificate]
      [md5RootCertificate, rootCertificate, leafCertificate] := by
  have hname : rootCertificate.subject.agrees leafCertificate.subject = false := by decide +kernel
  refine .new _ (.old _ (fun d hd => ?_) (.new _ .nil))
  rw [List.mem_singleton.mp hd]
  exact hname

/-- Alone it is an error, `validate_leaf_md5Root`; in front of the root it is not looked at. -/
theorem validate_leaf_merged :
    (validate .standard 1600000000000000000 leafCertificate [rootCertificate]).outcome = .ok true ∧
      Merged [md5RootCertificate, leafCertificate] [rootCertificate]
        [md5RootCertificate, rootCertificate, leafCertificate] ∧
      (validate .standard 1600000000000000000 leafCertificate
        [md5RootCertificate, rootCertificate, leafCertificate]).outcome = .ok true := by
  refine ⟨validate_leaf, merged_md5Root, ?_⟩
  rw [((validate_eq_of_merged .standard _ leafCertificate).2 _ _ _ merged_md5Root).1
    (Or.inl validate_leaf)]
  exact validate_leaf

end ChainOfTrust.Chain
