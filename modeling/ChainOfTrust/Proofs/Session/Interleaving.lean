import Mathlib.Data.List.Nodup
import Mathlib.Logic.Relation
import ChainOfTrust.Adapter

/-!
# Checks and snapshots at the same time

Checks on other threads count while a snapshot loads one counter after another.

* `Step` : one counter raised or loaded, or a thread begun; `Reachable` : any number of threads, their
  steps in any order, from counters that are all zero;
* `moves_alone` : a check that nobody interrupts counts as `TrustStats.record` does, a snapshot that nobody
  interrupts is `TrustStats.snapshot`;
* `Sound` : each counter is the number of checks that have raised it, and no number a snapshot has loaded
  is larger than its counter is by now. `Step.sound` : every step keeps this;
* `snapshot_bounds` : a copy of all counters at one moment has no more outcomes than checks. A snapshot has
  no more outcomes than checks have begun when it is taken, and no more than it has checks if these are
  loaded last;
* `snapshot_overtaken` : it can have more than it has checks, as these are loaded first.
-/

namespace ChainOfTrust.Interleaving

set_option autoImplicit false

/-! ## Numbers of checks and outcomes -/

def outcomes (n : Counter → Nat) : Nat := n .validated + n .rejected + n .empty + n .fatal

/-- No more outcomes than checks. -/
def Consistent (n : Counter → Nat) : Prop := outcomes n ≤ n .checks

/-- The numbers of a snapshot. -/
def numbers (taken : List (Counter × UInt64)) (k : Counter) : Nat := ((taken.lookup k).getD 0).toNat

theorem outcomes_mono {n m : Counter → Nat} (h : ∀ k, k ≠ .checks → n k ≤ m k) :
    outcomes n ≤ outcomes m := by
  have hvalidated := h .validated (by decide)
  have hrejected := h .rejected (by decide)
  have hempty := h .empty (by decide)
  have hfatal := h .fatal (by decide)
  unfold outcomes
  omega

theorem numbers_snapshot (s : TrustStats) (k : Counter) : numbers s.snapshot k = (s.read k).toNat := by
  cases k <;> rfl

theorem exists_mem_of_numbers {taken : List (Counter × UInt64)} {k : Counter}
    (h : numbers taken k ≠ 0) : ∃ n, (k, n) ∈ taken ∧ numbers taken k = n.toNat := by
  cases hk : taken.lookup k with
  | none => exact absurd (by rw [numbers, hk]; rfl) h
  | some n =>
    obtain ⟨l, r, rfl, -⟩ := List.lookup_eq_some_iff.mp hk
    exact ⟨n, List.mem_append_right _ List.mem_cons_self, by rw [numbers, hk]; rfl⟩

/-! ## Threads -/

inductive Thread where
  /-- A check with the counters it has raised and those it has yet to raise. -/
  | check (done todo : List Counter)
  /-- A snapshot with the numbers it has loaded and the counters it has yet to load. -/
  | snapshot (taken : List (Counter × UInt64)) (todo : List Counter)

namespace Thread

/-- A check with any verdict, and a snapshot that loads the counters in the given order. -/
inductive Starts (order : List Counter) : Thread → Prop
  | check (v : Verdict) : Starts order (.check [] v.counters)
  | snapshot : Starts order (.snapshot [] order)

/-- The next counter is raised or loaded. -/
inductive Moves : TrustStats × Thread → TrustStats × Thread → Prop
  | count (s : TrustStats) (done : List Counter) (k : Counter) (todo : List Counter) :
      Moves (s, .check done (k :: todo)) (s.count k, .check (done ++ [k]) todo)
  | load (s : TrustStats) (taken : List (Counter × UInt64)) (k : Counter) (todo : List Counter) :
      Moves (s, .snapshot taken (k :: todo)) (s, .snapshot (taken ++ [(k, s.read k)]) todo)

def isCheck : Thread → Bool
  | check .. => true
  | snapshot .. => false

def raised : Thread → List Counter
  | check done _ => done
  | snapshot .. => []

def counted (t : Thread) (k : Counter) : Nat := t.raised.count k

end Thread

/-- The statistics and the threads that use them. -/
structure Shared where
  stats : TrustStats := {}
  threads : List Thread := []

inductive Step (order : List Counter) : Shared → Shared → Prop
  | start {s : TrustStats} {ts : List Thread} {t : Thread} (ht : t.Starts order) :
      Step order ⟨s, ts⟩ ⟨s, ts ++ [t]⟩
  | move {s s' : TrustStats} {t t' : Thread} (l r : List Thread) (h : Thread.Moves (s, t) (s', t')) :
      Step order ⟨s, l ++ t :: r⟩ ⟨s', l ++ t' :: r⟩

def Reachable (order : List Counter) (c : Shared) : Prop := Relation.ReflTransGen (Step order) {} c

namespace Shared

def checks (c : Shared) : Nat := c.threads.countP Thread.isCheck

/-- How often the threads have raised a counter. -/
def counted (c : Shared) (k : Counter) : Nat := (c.threads.flatMap Thread.raised).count k

end Shared

variable {order rest done todo : List Counter} {taken : List (Counter × UInt64)} {k : Counter}
  {s s' : TrustStats} {t t' : Thread} {c c' : Shared} {total total' : Counter → Nat}

/-! ## Threads that run alone -/

theorem moves_check (s : TrustStats) (done todo : List Counter) :
    Relation.ReflTransGen Thread.Moves (s, .check done todo)
      (todo.foldl TrustStats.count s, .check (done ++ todo) []) := by
  induction todo generalizing s done with
  | nil =>
    rw [List.append_nil]
    exact .refl
  | cons k todo ih =>
    have hrest := ih (s.count k) (done ++ [k])
    rw [List.append_assoc] at hrest
    exact .head (.count s done k todo) hrest

theorem moves_snapshot (s : TrustStats) (taken : List (Counter × UInt64)) (todo : List Counter) :
    Relation.ReflTransGen Thread.Moves (s, .snapshot taken todo)
      (s, .snapshot (taken ++ todo.map fun k => (k, s.read k)) []) := by
  induction todo generalizing taken with
  | nil => rw [List.map_nil, List.append_nil]
  | cons k todo ih =>
    have hrest := ih (taken ++ [(k, s.read k)])
    rw [List.append_assoc] at hrest
    exact .head (.load s taken k todo) hrest

theorem moves_alone (s : TrustStats) (v : Verdict) :
    Relation.ReflTransGen Thread.Moves (s, .check [] v.counters) (s.record v, .check v.counters []) ∧
    Relation.ReflTransGen Thread.Moves (s, .snapshot [] Counter.all) (s, .snapshot s.snapshot []) :=
  ⟨moves_check s [] v.counters, moves_snapshot s [] Counter.all⟩

theorem steps_of_moves {p q : TrustStats × Thread} (l r : List Thread)
    (h : Relation.ReflTransGen Thread.Moves p q) :
    Relation.ReflTransGen (Step order) ⟨p.1, l ++ p.2 :: r⟩ ⟨q.1, l ++ q.2 :: r⟩ := by
  induction h with
  | refl => exact .refl
  | tail _ hmove ih => exact ih.tail (.move l r hmove)

/-! ## What every step keeps -/

inductive Thread.Sound (order : List Counter) (total : Counter → Nat) : Thread → Prop
  | check {done todo : List Counter} (v : Verdict) (h : done ++ todo = v.counters) :
      Sound order total (.check done todo)
  | snapshot {taken : List (Counter × UInt64)} {todo : List Counter}
      (loads : taken.map Prod.fst ++ todo = order)
      (le : ∀ k n, (k, n) ∈ taken → n.toNat ≤ total k) : Sound order total (.snapshot taken todo)

structure Shared.Sound (order : List Counter) (c : Shared) : Prop where
  reads : ∀ k, c.stats.read k = .ofNat (c.counted k)
  threads : ∀ t ∈ c.threads, t.Sound order c.counted

theorem Thread.Sound.mono (h : t.Sound order total) (hle : ∀ k, total k ≤ total' k) :
    t.Sound order total' := by
  cases h with
  | check v h => exact .check v h
  | snapshot loads le => exact .snapshot loads fun k n hn => Nat.le_trans (le k n hn) (hle k)

theorem Thread.Starts.sound (h : t.Starts order) : t.Sound order total := by
  cases h with
  | check v => exact .check v rfl
  | snapshot => exact .snapshot rfl fun _ _ hn => (List.not_mem_nil hn).elim

theorem Thread.Starts.counted_eq (h : t.Starts order) (k : Counter) : t.counted k = 0 := by
  cases h <;> rfl

/-- The counters and the thread's part in them are raised alike. -/
theorem Thread.Moves.raises (h : Thread.Moves (s, t) (s', t')) :
    ∃ d : Counter → Nat, ∀ k, t'.counted k = t.counted k + d k ∧ s'.read k = s.read k + .ofNat (d k) := by
  cases h with
  | count _ done j todo =>
    refine ⟨fun k => [j].count k, fun k => ⟨List.count_append, ?_⟩⟩
    rw [TrustStats.read_count]
    by_cases hk : j = k
    · simp [hk]
    · simp [hk]
  | load => exact ⟨fun _ => 0, fun k => ⟨rfl, (UInt64.add_zero _).symm⟩⟩

theorem Thread.Moves.sound (h : Thread.Moves (s, t) (s', t'))
    (hreads : ∀ k, s.read k = .ofNat (total k)) (ht : t.Sound order total) :
    t'.Sound order total := by
  cases h with
  | count _ done j todo =>
    cases ht with
    | check v h => exact .check v (by rw [List.append_assoc]; exact h)
  | load _ taken j todo =>
    cases ht with
    | snapshot loads le =>
      refine .snapshot (by rw [List.map_append, List.append_assoc]; exact loads) fun k n hn => ?_
      rcases List.mem_append.mp hn with hn | hn
      · exact le k n hn
      · cases List.mem_singleton.mp hn
        rw [hreads, UInt64.toNat_ofNat']
        exact Nat.mod_le _ _

theorem counted_split (s : TrustStats) (l r : List Thread) (t : Thread) (k : Counter) :
    Shared.counted ⟨s, l ++ t :: r⟩ k = Shared.counted ⟨s, l ++ r⟩ k + t.counted k := by
  simp only [Shared.counted, Thread.counted, List.flatMap_append, List.flatMap_cons, List.count_append]
  omega

theorem Step.sound (h : Step order c c') (hc : c.Sound order) : c'.Sound order := by
  cases h with
  | @start s ts t ht =>
    have hcounted : Shared.counted ⟨s, ts ++ [t]⟩ = Shared.counted ⟨s, ts⟩ := by
      funext k
      rw [counted_split, ht.counted_eq, List.append_nil, Nat.add_zero]
    refine ⟨fun k => ?_, fun u hu => ?_⟩
    · rw [hcounted]
      exact hc.reads k
    · rw [hcounted]
      rcases List.mem_append.mp hu with hu | hu
      · exact hc.threads u hu
      · cases List.mem_singleton.mp hu
        exact ht.sound
  | @move s s' t t' l r h =>
    obtain ⟨d, hd⟩ := h.raises
    have hcounted (k : Counter) :
        Shared.counted ⟨s', l ++ t' :: r⟩ k = Shared.counted ⟨s, l ++ t :: r⟩ k + d k := by
      rw [counted_split, counted_split, (hd k).1, Nat.add_assoc]
      rfl
    have hle (k : Counter) :
        Shared.counted ⟨s, l ++ t :: r⟩ k ≤ Shared.counted ⟨s', l ++ t' :: r⟩ k := by
      rw [hcounted]
      exact Nat.le_add_right _ _
    refine ⟨fun k => ?_, fun u hu => ?_⟩
    · rw [(hd k).2, hcounted, UInt64.ofNat_add]
      exact congrArg (· + _) (hc.reads k)
    · rcases List.mem_append.mp hu with hu | hu
      · exact (hc.threads u (List.mem_append_left _ hu)).mono hle
      · rcases List.mem_cons.mp hu with rfl | hu
        · have ht := hc.threads t (List.mem_append_right _ List.mem_cons_self)
          exact (h.sound hc.reads ht).mono hle
        · exact (hc.threads u (List.mem_append_right _ (List.mem_cons_of_mem _ hu))).mono hle

theorem Reachable.sound (h : Reachable order c) : c.Sound order := by
  induction h with
  | refl => exact ⟨fun k => by cases k <;> rfl, fun _ ht => (List.not_mem_nil ht).elim⟩
  | tail _ hstep ih => exact hstep.sound ih

/-! ## Counters at one moment -/

theorem exists_counters_eq (v : Verdict) : ∃ o, o ≠ .checks ∧ v.counters = [.checks, o] := by
  cases v with
  | empty => exact ⟨.empty, by decide, rfl⟩
  | validated => exact ⟨.validated, by decide, rfl⟩
  | rejected => exact ⟨.rejected, by decide, rfl⟩
  | fatal => exact ⟨.fatal, by decide, rfl⟩

/-- A check raises its outcome after it has raised `checks`, and each once. -/
theorem Thread.Sound.consistent (h : t.Sound order total) :
    Consistent t.counted ∧ ∀ k, t.counted k ≤ if t.isCheck then 1 else 0 := by
  cases h with
  | @check done todo v h =>
    obtain ⟨o, ho, hcounters⟩ := exists_counters_eq v
    have hdone : done <+: [.checks, o] := ⟨todo, h.trans hcounters⟩
    have honce : [Counter.checks, o].Nodup := by simp [ho.symm]
    refine ⟨?_, fun k => List.nodup_iff_count_le_one.mp (honce.sublist hdone.sublist) k⟩
    rcases List.prefix_cons_iff.mp hdone with rfl | ⟨done, rfl, hrest⟩
    · exact Nat.le_refl 0
    · rcases List.prefix_cons_iff.mp hrest with rfl | ⟨done, rfl, hnil⟩
      · exact Nat.zero_le 1
      · obtain rfl := List.prefix_nil.mp hnil
        cases o with
        | checks => exact absurd rfl ho
        | _ => exact Nat.le_refl 1
  | snapshot => exact ⟨Nat.le_refl 0, fun _ => Nat.le_refl 0⟩

theorem consistent_flatMap {ts : List Thread} (h : ∀ t ∈ ts, Consistent t.counted) :
    Consistent fun k => (ts.flatMap Thread.raised).count k := by
  induction ts with
  | nil => exact Nat.le_refl 0
  | cons t ts ih =>
    rw [List.forall_mem_cons] at h
    have hfirst := h.1
    have hrest := ih h.2
    simp only [Consistent, outcomes, Thread.counted, List.flatMap_cons, List.count_append]
      at hfirst hrest ⊢
    omega

theorem count_flatMap_le {ts : List Thread}
    (h : ∀ t ∈ ts, t.counted k ≤ if t.isCheck then 1 else 0) :
    (ts.flatMap Thread.raised).count k ≤ ts.countP Thread.isCheck := by
  induction ts with
  | nil => exact Nat.le_refl 0
  | cons t ts ih =>
    rw [List.forall_mem_cons] at h
    rw [List.flatMap_cons, List.count_append, List.countP_cons, Nat.add_comm]
    exact Nat.add_le_add (ih h.2) h.1

theorem Shared.Sound.consistent (h : c.Sound order) : Consistent c.counted :=
  consistent_flatMap fun t ht => (h.threads t ht).consistent.1

/-- With fewer than `2 ^ 64` checks no counter has wrapped. -/
theorem Shared.Sound.toNat_read (h : c.Sound order) (hchecks : c.checks < UInt64.size) (k : Counter) :
    (c.stats.read k).toNat = c.counted k := by
  have hle : c.counted k ≤ c.checks := count_flatMap_le fun t ht => (h.threads t ht).consistent.2 k
  rw [h.reads, UInt64.toNat_ofNat_of_lt' (Nat.lt_of_le_of_lt hle hchecks)]

/-! ## Snapshots -/

theorem numbers_le (h : (Thread.snapshot taken todo).Sound order total) (k : Counter) :
    numbers taken k ≤ total k := by
  cases h with
  | snapshot _ le =>
    by_cases hk : numbers taken k = 0
    · omega
    · obtain ⟨n, hn, heq⟩ := exists_mem_of_numbers hk
      rw [heq]
      exact le k n hn

theorem Thread.Moves.isCheck_eq (h : Thread.Moves (s, t) (s', t')) : t'.isCheck = t.isCheck := by
  cases h <;> rfl

theorem Step.checks_le (h : Step order c c') : c.checks ≤ c'.checks := by
  cases h with
  | start => exact (List.sublist_append_left _ _).countP_le
  | move l r h => simp [Shared.checks, List.countP_cons, h.isCheck_eq]

theorem numbers_concat (hk : k ∉ taken.map Prod.fst) (n : UInt64) :
    numbers (taken ++ [(k, n)]) k = n.toNat ∧
      ∀ j, j ≠ k → numbers (taken ++ [(k, n)]) j = numbers taken j := by
  constructor
  · have hnone : taken.lookup k = none := by
      rw [List.lookup_eq_none_iff]
      intro e he
      exact bne_iff_ne.mpr fun hek => hk (hek ▸ List.mem_map_of_mem he)
    simp [numbers, List.lookup_append, hnone]
  · intro j hj
    have hother : [(k, n)].lookup j = none := by
      rw [List.lookup_cons, beq_false_of_ne hj]
      rfl
    simp [numbers, List.lookup_append, hother]

theorem Thread.Starts.todo_eq (h : (Thread.snapshot taken todo).Starts order) : todo = order := by
  cases h
  rfl

/-- A snapshot that loads the checks last has loaded no outcome but of checks that had begun by then. -/
theorem Reachable.consistent_of_last (h : Reachable (rest ++ [.checks]) c) (hrest : .checks ∉ rest)
    (hchecks : c.checks < UInt64.size) (htaken : .snapshot taken [] ∈ c.threads) :
    Consistent (numbers taken) := by
  induction h with
  | refl => exact (List.not_mem_nil htaken).elim
  | @tail b c hbefore hstep ih =>
    have hsound : b.Sound (rest ++ [.checks]) := Reachable.sound hbefore
    have hbound : b.checks < UInt64.size := Nat.lt_of_le_of_lt hstep.checks_le hchecks
    cases hstep with
    | start ht =>
      rcases List.mem_append.mp htaken with hold | hnew
      · exact ih hbound hold
      · rw [← List.mem_singleton.mp hnew] at ht
        exact absurd ht.todo_eq (by simp)
    | @move s s' t t' l r h =>
      rcases List.mem_append.mp htaken with hold | hnew
      · exact ih hbound (List.mem_append_left _ hold)
      rcases List.mem_cons.mp hnew with rfl | hold
      · have ht := hsound.threads t (List.mem_append_right _ List.mem_cons_self)
        cases h with
        | load _ taken k =>
          have hle := numbers_le ht
          cases ht with
          | snapshot loads _ =>
            obtain ⟨rfl, hk⟩ := List.append_inj' loads rfl
            obtain rfl : k = .checks := (List.cons.inj hk).1
            obtain ⟨hlast, hothers⟩ := numbers_concat hrest (s.read .checks)
            have hread := hsound.toNat_read hbound .checks
            unfold Consistent
            calc outcomes (numbers (taken ++ [(.checks, s.read .checks)]))
                ≤ outcomes (Shared.counted ⟨s, l ++ .snapshot taken [.checks] :: r⟩) :=
                  outcomes_mono fun j hj => by rw [hothers j hj]; exact hle j
              _ ≤ Shared.counted ⟨s, l ++ .snapshot taken [.checks] :: r⟩ .checks := hsound.consistent
              _ = numbers (taken ++ [(.checks, s.read .checks)]) .checks := by rw [hlast, ← hread]
      · exact ih hbound (List.mem_append_right _ (List.mem_cons_of_mem _ hold))

/-- **With fewer than `2 ^ 64` checks on any threads, the counters at one moment have no more outcomes
than checks. A snapshot has loaded, all numbers together, no more outcomes than checks have begun when
it is taken; it has no more outcomes than checks if it loads these last.** -/
theorem snapshot_bounds (h : Reachable order c) (hchecks : c.checks < UInt64.size) :
    Consistent (numbers c.stats.snapshot) ∧
    ∀ taken, .snapshot taken [] ∈ c.threads →
      numbers taken .checks ≤ c.stats.checks.toNat ∧
      outcomes (numbers taken) ≤ c.stats.checks.toNat ∧
      ∀ rest, .checks ∉ rest → order = rest ++ [.checks] → Consistent (numbers taken) := by
  have hsound := h.sound
  have hread : c.stats.checks.toNat = c.counted .checks := hsound.toNat_read hchecks .checks
  refine ⟨?_, fun taken htaken => ⟨?_, ?_, ?_⟩⟩
  · have hnow : numbers c.stats.snapshot = c.counted := by
      funext k
      rw [numbers_snapshot, hsound.toNat_read hchecks]
    rw [hnow]
    exact hsound.consistent
  · rw [hread]
    exact numbers_le (hsound.threads _ htaken) .checks
  · rw [hread]
    exact Nat.le_trans (outcomes_mono fun k _ => numbers_le (hsound.threads _ htaken) k)
      hsound.consistent
  · rintro rest hrest rfl
    exact h.consistent_of_last hrest hchecks htaken

/-! ## A snapshot that a check overtakes -/

/-- The statistics after one check of no certificate. -/
def afterEmpty : TrustStats := ({} : TrustStats).record .empty

/-- A check of no certificate, begun and ended while a snapshot had loaded nothing but its first
counter. -/
def overtaken (first : Counter) (others : List Counter) : Shared where
  stats := afterEmpty
  threads :=
    [.snapshot ((first, 0) :: others.map fun k => (k, afterEmpty.read k)) [],
      .check Verdict.empty.counters []]

theorem reachable_overtaken (first : Counter) (others : List Counter) :
    Reachable (first :: others) (overtaken first others) := by
  have hzero : ({} : TrustStats).read first = 0 := by cases first <;> rfl
  have hbegun : Reachable (first :: others) ⟨{}, [.snapshot [(first, 0)] others]⟩ := by
    have hload := Thread.Moves.load {} [] first others
    rw [hzero] at hload
    exact .tail (.single (.start .snapshot)) (.move [] [] hload)
  have hchecked : Reachable (first :: others)
      ⟨afterEmpty, [.snapshot [(first, 0)] others, .check Verdict.empty.counters []]⟩ :=
    (hbegun.tail (.start (.check .empty))).trans
      (steps_of_moves [.snapshot [(first, 0)] others] [] (moves_check {} [] Verdict.empty.counters))
  exact hchecked.trans
    (steps_of_moves [] [.check Verdict.empty.counters []] (moves_snapshot afterEmpty [(first, 0)] others))

/-- **The checks are loaded first: a check that begins and ends after that is in the snapshot with its
outcome alone.** -/
theorem snapshot_overtaken :
    Reachable Counter.all (overtaken .checks [.validated, .rejected, .empty, .fatal]) ∧
    (overtaken .checks [.validated, .rejected, .empty, .fatal]).checks = 1 ∧
    .snapshot [(.checks, 0), (.validated, 0), (.rejected, 0), (.empty, 1), (.fatal, 0)] [] ∈
      (overtaken .checks [.validated, .rejected, .empty, .fatal]).threads ∧
    ¬Consistent (numbers
      [(.checks, 0), (.validated, 0), (.rejected, 0), (.empty, 1), (.fatal, 0)]) :=
  ⟨reachable_overtaken _ _, rfl, List.mem_cons_self, by unfold Consistent; decide⟩

/-- The same check with the checks loaded first, and with the checks loaded last. -/
theorem snapshot_bounds_overtaken :
    outcomes (numbers [(.checks, 0), (.validated, 0), (.rejected, 0), (.empty, 1), (.fatal, 0)]) ≤ 1 ∧
    Consistent (numbers
      [(.validated, 0), (.rejected, 0), (.empty, 1), (.fatal, 0), (.checks, 1)]) := by
  have hfirst := snapshot_bounds
    (reachable_overtaken .checks [.validated, .rejected, .empty, .fatal]) (by decide)
  have hlast := snapshot_bounds
    (reachable_overtaken .validated [.rejected, .empty, .fatal, .checks]) (by decide)
  exact ⟨(hfirst.2 _ List.mem_cons_self).2.1, (hlast.2 _ List.mem_cons_self).2.2
    [.validated, .rejected, .empty, .fatal] (by decide) rfl⟩

end ChainOfTrust.Interleaving
