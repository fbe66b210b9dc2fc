import Mathlib.Tactic.Common
import ChainOfTrust.Session

/-!
# What a check counts

* `TrustStats.raise`, `Session.raise` : counters raised by given amounts, all at once;
* `read_foldl_count` : counting one step after another raises each counter by its number of steps;
* `Session.record_eq_raise` : a check raises the counters by amounts that its verdict fixes.
-/

namespace ChainOfTrust

set_option autoImplicit false

/-! ## Statistics -/

namespace TrustStats

variable {s s' : TrustStats}

def raise (s : TrustStats) (n : Counter → UInt64) : TrustStats where
  checks := s.checks + n .checks
  validated := s.validated + n .validated
  rejected := s.rejected + n .rejected
  empty := s.empty + n .empty
  fatal := s.fatal + n .fatal

theorem read_raise (s : TrustStats) (n : Counter → UInt64) (c : Counter) :
    (s.raise n).read c = s.read c + n c := by
  cases c <;> rfl

theorem eq_of_read (h : ∀ c, s.read c = s'.read c) : s = s' := by
  obtain ⟨checks, validated, rejected, empty, fatal⟩ := s
  obtain ⟨checks', validated', rejected', empty', fatal'⟩ := s'
  obtain rfl : checks = checks' := h .checks
  obtain rfl : validated = validated' := h .validated
  obtain rfl : rejected = rejected' := h .rejected
  obtain rfl : empty = empty' := h .empty
  obtain rfl : fatal = fatal' := h .fatal
  rfl

/-- A snapshot holds every counter, once. -/
theorem mem_snapshot_iff {c : Counter} {n : UInt64} : (c, n) ∈ s.snapshot ↔ n = s.read c := by
  have hall : c ∈ Counter.all := by
    cases c <;> decide
  rw [snapshot, List.mem_map]
  constructor
  · rintro ⟨d, -, hd⟩
    cases hd
    rfl
  · rintro rfl
    exact ⟨c, hall, rfl⟩

theorem read_foldl_count (steps : List Counter) (s : TrustStats) (c : Counter) :
    (steps.foldl count s).read c = s.read c + .ofNat (steps.count c) := by
  induction steps generalizing s with
  | nil => simp
  | cons d steps ih =>
    rw [List.foldl_cons, ih, read_count, List.count_cons]
    by_cases hd : d = c
    · rw [if_pos hd, if_pos (by simp [hd]), UInt64.ofNat_add, UInt64.add_assoc]
      congr 1
      exact UInt64.add_comm _ _
    · rw [if_neg hd, if_neg (by simp [hd]), Nat.add_zero]

end TrustStats

/-! ## Verdicts -/

/-- How much a check with this verdict raises a counter. -/
def Verdict.raises (v : Verdict) (c : Counter) : UInt64 := .ofNat (v.counters.count c)

theorem TrustStats.record_eq_raise (s : TrustStats) (v : Verdict) :
    s.record v = s.raise v.raises := by
  refine eq_of_read fun c => ?_
  rw [TrustStats.record, read_foldl_count, read_raise, Verdict.raises]

/-! ## Sessions -/

namespace Session

/-- The session with the counters of one account raised. -/
def raise (s : Session) (a : TrustAdapter) (n : Counter → UInt64) : Session :=
  { s with accounts := s.accounts.modify a.account fun t => t.raise n }

theorem raise_zero (s : Session) (a : TrustAdapter) : s.raise a (fun _ => 0) = s := by
  have hzero : (fun t : TrustStats => t.raise fun _ => 0) = id := by
    funext t
    refine TrustStats.eq_of_read fun c => ?_
    rw [TrustStats.read_raise, UInt64.add_zero, id]
  unfold raise
  rw [hzero, List.modify_id]

theorem record_eq_raise (s : Session) (a : TrustAdapter) (v : Verdict) :
    s.record a v = s.raise a v.raises := by
  unfold record raise
  simp only [TrustStats.record_eq_raise]

end Session

end ChainOfTrust
