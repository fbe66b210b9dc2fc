import Mathlib.Data.List.Dedup
import Mathlib.Data.List.Perm.Subperm
import ChainOfTrust.Proofs.Chain.Ending

/-!
# How far a climb goes

No argument of a climb gets smaller from one call to the next: all candidates are scanned again each
time. What ends it are the fingerprints that were visited.

* `calls` : how often a climb calls itself;
* `climbWithin n` : the climb that may call itself `n` times, and gives up where that is too little;
* `Climbed.calls_eq`, `Climbed.climbWithin_eq` : a climb calls itself once for each certificate of its
  path, and as many calls are enough for it;
* `intermediates` : the fingerprints that a validation can climb to, `validate_calls_le` : it calls
  itself at most once for each of these.
-/

namespace ChainOfTrust.Chain

set_option autoImplicit false

section Calls
variable (p : Provider) (t : Instant) (candidates : List Certificate)

def calls (visited : List Bytes) (s : Certificate) : Nat :=
  match h : scan p t s candidates.reverse with
  | ⟨_, .ok (some (.issuer c))⟩ =>
    if c.fingerprint ∈ visited then 0 else calls (c.fingerprint :: visited) c + 1
  | _ => 0
termination_by unvisited candidates visited
decreasing_by
  have found := scan_issuer_mem p t (congrArg Logged.outcome h)
  exact unvisited_cons_lt (List.mem_reverse.1 found) ‹_›

/-- The climb, or `none` if it would call itself once more after `n` times. -/
def climbWithin : (n : Nat) → List Bytes → Certificate → Option (Logged Bool)
  | n, visited, s =>
    match scan p t s candidates.reverse with
    | ⟨events, .error fault⟩ => some ⟨events, .error fault⟩
    | ⟨events, .ok none⟩ => some ⟨events, .ok false⟩
    | ⟨events, .ok (some (.root c))⟩ => some ⟨events ++ [.reachedRoot c], .ok true⟩
    | ⟨events, .ok (some (.issuer c))⟩ =>
      if c.fingerprint ∈ visited then some ⟨events ++ [.issuerCycle c], .ok false⟩
      else match n with
        | 0 => none
        | n + 1 => (climbWithin n (c.fingerprint :: visited) c).map fun rest =>
            rest.after (events ++ [.climbed s c])

/-- The fingerprints of the candidates that are not self-signed, but for the one of `s`. -/
def intermediates (s : Certificate) : List Bytes :=
  (((candidates.filter fun c => (isSelfSigned p c).outcome = .ok false).map
    Certificate.fingerprint).filter fun f => f ≠ s.fingerprint).dedup

end Calls

variable {p : Provider} {t : Instant} {candidates : List Certificate}
variable {s c top : Certificate} {path : List Certificate} {visited : List Bytes}

/-! ## One call -/

theorem calls_eq (visited : List Bytes) (s : Certificate) :
    calls p t candidates visited s =
      match scan p t s candidates.reverse with
      | ⟨_, .ok (some (.issuer c))⟩ =>
        if c.fingerprint ∈ visited then 0
        else calls p t candidates (c.fingerprint :: visited) c + 1
      | _ => 0 := by
  rw [calls]
  split <;> simp only [*]

theorem exists_scan_of_climbsTo (h : ClimbsTo p t candidates s c) :
    ∃ events, scan p t s candidates.reverse = ⟨events, .ok (some (.issuer c))⟩ := by
  have hout := scan_outcome (p := p) (t := t) (s := s) candidates.reverse
  have hstep : firstVoucher p t s candidates.reverse = .ok (some c) := h.1
  rw [hstep] at hout
  rcases hscan : scan p t s candidates.reverse with ⟨events, outcome⟩
  rw [hscan] at hout
  refine ⟨events, ?_⟩
  simp only [linkTo, h.2, Except.map] at hout
  rw [hout]
  rfl

theorem calls_of_climbsTo (h : ClimbsTo p t candidates s c) (hv : c.fingerprint ∉ visited) :
    calls p t candidates visited s = calls p t candidates (c.fingerprint :: visited) c + 1 := by
  obtain ⟨events, hscan⟩ := exists_scan_of_climbsTo h
  rw [calls_eq, hscan]
  exact if_neg hv

theorem climbWithin_zero_of_climbsTo (h : ClimbsTo p t candidates s c)
    (hv : c.fingerprint ∉ visited) : climbWithin p t candidates 0 visited s = none := by
  obtain ⟨events, hscan⟩ := exists_scan_of_climbsTo h
  rw [climbWithin, hscan]
  exact if_neg hv

theorem climbWithin_succ_of_climbsTo (h : ClimbsTo p t candidates s c)
    (hv : c.fingerprint ∉ visited) (n : Nat) :
    ∃ events, climb p t candidates visited s =
        (climb p t candidates (c.fingerprint :: visited) c).after events ∧
      climbWithin p t candidates (n + 1) visited s =
        (climbWithin p t candidates n (c.fingerprint :: visited) c).map fun rest =>
          rest.after events := by
  obtain ⟨events, hscan⟩ := exists_scan_of_climbsTo h
  refine ⟨events ++ [.climbed s c], ?_, ?_⟩
  · rw [climb_eq, hscan]
    exact if_neg hv
  · rw [climbWithin, hscan]
    exact if_neg hv

theorem calls_of_stuck (h : ∀ c, ClimbsTo p t candidates s c → c.fingerprint ∈ visited) :
    calls p t candidates visited s = 0 := by
  rw [calls_eq]
  split
  · rename_i c hscan
    exact if_pos (h c (climbsTo_of_scan (by rw [hscan])))
  · rfl

theorem climbWithin_of_stuck (h : ∀ c, ClimbsTo p t candidates s c → c.fingerprint ∈ visited)
    (n : Nat) :
    climbWithin p t candidates n visited s = some (climb p t candidates visited s) := by
  rw [climbWithin, climb_eq]
  rcases hscan : scan p t s candidates.reverse with ⟨events, fault | _ | ⟨c⟩ | ⟨c⟩⟩
  · rfl
  · rfl
  · rfl
  · have hv := h c (climbsTo_of_scan (by rw [hscan]))
    simp only [if_pos hv]

/-! ## All calls -/

theorem Climbed.stuck_nil (h : Climbed p t candidates visited s [] s) :
    ∀ c, ClimbsTo p t candidates s c → c.fingerprint ∈ visited := fun c hc =>
  (h.cycle c (endingAt_eq_cycle_iff.mpr hc)).resolve_right List.not_mem_nil

/-- A climb calls itself once for each certificate of its path. -/
theorem Climbed.calls_eq (h : Climbed p t candidates visited s path top) :
    calls p t candidates visited s = path.length := by
  have hascent := h.ascent
  induction hascent generalizing visited with
  | refl s => exact calls_of_stuck h.stuck_nil
  | climb first rest ih =>
    rw [calls_of_climbsTo first (h.fresh _ List.mem_cons_self), ih (h.tail rest), List.length_cons]

/-- That many calls are enough, and fewer are not. -/
theorem Climbed.climbWithin_eq (h : Climbed p t candidates visited s path top) (n : Nat) :
    climbWithin p t candidates n visited s =
      if path.length ≤ n then some (climb p t candidates visited s) else none := by
  have hascent := h.ascent
  induction hascent generalizing visited n with
  | refl s => exact climbWithin_of_stuck h.stuck_nil n
  | @climb s c top path first rest ih =>
    have hv := h.fresh c List.mem_cons_self
    cases n with
    | zero => exact climbWithin_zero_of_climbsTo first hv
    | succ n =>
      obtain ⟨events, hclimb, hwithin⟩ := climbWithin_succ_of_climbsTo first hv n
      rw [hwithin, ih (h.tail rest), hclimb, List.length_cons]
      by_cases hn : path.length ≤ n
      · rw [if_pos hn, if_pos (Nat.succ_le_succ hn), Option.map_some]
      · rw [if_neg hn, if_neg (fun h => hn (Nat.le_of_succ_le_succ h)), Option.map_none]

/-! ## The bound -/

theorem mem_intermediates_iff {f : Bytes} :
    f ∈ intermediates p candidates s ↔
      (∃ c ∈ candidates, (isSelfSigned p c).outcome = .ok false ∧ c.fingerprint = f) ∧
        f ≠ s.fingerprint := by
  unfold intermediates
  rw [List.mem_dedup, List.mem_filter, List.mem_map, decide_eq_true_eq]
  simp only [List.mem_filter, decide_eq_true_eq, and_assoc]

theorem Climbed.length_le (h : Climbed p t candidates [s.fingerprint] s path top) :
    path.length ≤ (intermediates p candidates s).length := by
  have hsub : path.map Certificate.fingerprint ⊆ intermediates p candidates s := by
    intro f hf
    obtain ⟨c, hc, rfl⟩ := List.mem_map.mp hf
    obtain ⟨hmem, hself⟩ := h.ascent.mem hc
    exact mem_intermediates_iff.mpr
      ⟨⟨c, hmem, hself, rfl⟩, fun heq => h.fresh c hc (List.mem_singleton.mpr heq)⟩
  rw [← List.length_map (f := Certificate.fingerprint)]
  exact (List.Nodup.subperm h.nodup hsub).length_le

/-- **A validation always ends**: it calls itself at most once for each fingerprint of a candidate
that is not self-signed and not the subject. So many calls are never used up before it ends. -/
theorem validate_calls_le (p : Provider) (t : Instant) (s : Certificate)
    (candidates : List Certificate) :
    calls p t candidates [s.fingerprint] s ≤ (intermediates p candidates s).length ∧
    (∀ n, climbWithin p t candidates n [s.fingerprint] s =
      if calls p t candidates [s.fingerprint] s ≤ n then some (validate p t s candidates)
      else none) ∧
    climbWithin p t candidates (intermediates p candidates s).length [s.fingerprint] s =
      some (validate p t s candidates) := by
  obtain ⟨path, top, h, -⟩ := climb_ends p t candidates [s.fingerprint] s
  rw [h.calls_eq]
  refine ⟨h.length_le, h.climbWithin_eq, ?_⟩
  rw [h.climbWithin_eq, if_pos h.length_le]
  rfl

end ChainOfTrust.Chain
