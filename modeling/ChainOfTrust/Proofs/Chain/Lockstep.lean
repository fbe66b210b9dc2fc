import ChainOfTrust.Proofs.Chain.Ending

/-!
# Two climbs in lock step

Climbs from one certificate, among two lists of candidates.

* `Ending.Alike` : endings with the same outcome that lead on to the same certificate;
* `climb_outcome_eq_of_alike` : climbs have the same outcome as long as every certificate they come to
  has endings alike in both lists.
-/

namespace ChainOfTrust.Chain

set_option autoImplicit false

/-- They have the same outcome, and the same certificate to climb on to if there is one. -/
def Ending.Alike (a b : Ending) : Prop :=
  a.outcome = b.outcome ∧ ∀ c, a = .cycle c ↔ b = .cycle c

theorem Ending.Alike.refl (a : Ending) : a.Alike a := ⟨rfl, fun _ => Iff.rfl⟩

variable {p : Provider} {t : Instant} {candidates candidates' : List Certificate}
variable {s : Certificate}

/-! ## Endings -/

theorem endingAt_eq_of_step (h : step p t candidates s = step p t candidates' s) :
    endingAt p t candidates s = endingAt p t candidates' s := by
  unfold endingAt
  rw [h]

/-- The first list decides how far the climbs go: the second has the same steps that are not to a
root. -/
theorem climb_outcome_eq_of_alike {inv : Certificate → Prop}
    (halike : ∀ s, inv s → (endingAt p t candidates s).Alike (endingAt p t candidates' s))
    (hclimbs : ∀ s c, inv s → ClimbsTo p t candidates s c → inv c)
    (visited : List Bytes) (s : Certificate) (hs : inv s) :
    (climb p t candidates visited s).outcome = (climb p t candidates' visited s).outcome := by
  induction visited, s using climb_induction p t candidates with
  | rise visited s ih =>
    obtain ⟨hout, hcycle⟩ := halike s hs
    rcases rises_or_stuck p t candidates visited s with ⟨c, hclimb, hv⟩ | hstuck
    · have hclimb' : ClimbsTo p t candidates' s c :=
        endingAt_eq_cycle_iff.mp ((hcycle c).mp (endingAt_eq_cycle_iff.mpr hclimb))
      rw [climb_outcome_of_climbsTo hclimb hv, climb_outcome_of_climbsTo hclimb' hv]
      exact ih c hclimb hv (hclimbs s c hs hclimb)
    · have hstuck' : ∀ c, endingAt p t candidates' s = .cycle c → c.fingerprint ∈ visited := by
        intro c hc
        exact hstuck c ((hcycle c).mpr hc)
      rw [climb_outcome_of_stuck hstuck, climb_outcome_of_stuck hstuck', hout]

end ChainOfTrust.Chain
