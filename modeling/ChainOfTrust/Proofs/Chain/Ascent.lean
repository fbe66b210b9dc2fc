import Mathlib.Data.List.Nodup
import Mathlib.Logic.Function.Iterate
import Mathlib.Tactic.Common
import ChainOfTrust.Proofs.Chain.Step

/-!
# Ascents

An ascent is a run of steps with no guard against cycles, none of them to a root.

* `Ascent s path top` : the steps from `s` go through the certificates of `path`, up to `top`;
* `Halted top` : no ascent goes on from `top`;
* `Ascent.comparable` : of two ascents from one certificate, one continues the other. So an ascent to
  a halted certificate is the longest there is (`Ascent.length_le`), the only one that ends
  (`Ascent.unique`), and repeats no certificate (`Ascent.nodup`);
* `Circles s` : the steps from `s` go round a cycle forever (`circles_iff`).
-/

namespace ChainOfTrust.Chain

set_option autoImplicit false

section Ascent
variable (p : Provider) (t : Instant) (candidates : List Certificate)

/-- A step to a certificate that is not a root. -/
def ClimbsTo (s c : Certificate) : Prop :=
  step p t candidates s = .ok (some c) ∧ (isSelfSigned p c).outcome = .ok false

inductive Ascent : Certificate → List Certificate → Certificate → Prop
  | refl (s : Certificate) : Ascent s [] s
  | climb {s c top : Certificate} {path : List Certificate} (first : ClimbsTo p t candidates s c)
      (rest : Ascent c path top) : Ascent s (c :: path) top

def Halted (top : Certificate) : Prop := ∀ c, ¬ ClimbsTo p t candidates top c

/-- The steps from `s` are those of `w`, which repeats itself from some index on. -/
def Circles (s : Certificate) : Prop :=
  ∃ w : Nat → Certificate, w 0 = s ∧ (∀ i, ClimbsTo p t candidates (w i) (w (i + 1))) ∧
    ∃ i k, 0 < k ∧ ∀ j, i ≤ j → w (j + k) = w j

end Ascent

variable {p : Provider} {t : Instant} {candidates : List Certificate}
variable {s c d e f : Certificate} {path path' : List Certificate}

theorem ClimbsTo.unique (h : ClimbsTo p t candidates s c) (h' : ClimbsTo p t candidates s d) :
    c = d :=
  Option.some.inj (Except.ok.inj (h.1.symm.trans h'.1))

/-! ## Parts of an ascent -/

namespace Ascent

theorem single (h : ClimbsTo p t candidates s c) : Ascent p t candidates s [c] c :=
  .climb h (.refl c)

theorem trans (h : Ascent p t candidates s path e) (h' : Ascent p t candidates e path' f) :
    Ascent p t candidates s (path ++ path') f := by
  induction h with
  | refl s => exact h'
  | climb first _ ih => exact .climb first (ih h')

/-- An ascent passes through each certificate of its path. -/
theorem split (h : Ascent p t candidates s path e) (hc : c ∈ path) :
    ∃ before after, path = before ++ after ∧ before ≠ [] ∧ Ascent p t candidates s before c ∧
      Ascent p t candidates c after e := by
  induction h with
  | refl s => cases hc
  | @climb s d top path first rest ih =>
    rcases List.mem_cons.mp hc with rfl | hc
    · exact ⟨[c], path, rfl, List.cons_ne_nil _ _, single first, rest⟩
    · obtain ⟨before, after, rfl, -, hb, ha⟩ := ih hc
      exact ⟨d :: before, after, rfl, List.cons_ne_nil _ _, .climb first hb, ha⟩

/-- The certificates of a path are candidates and not roots. -/
theorem mem (h : Ascent p t candidates s path e) (hc : c ∈ path) :
    c ∈ candidates ∧ (isSelfSigned p c).outcome = .ok false := by
  induction h with
  | refl s => cases hc
  | climb first _ ih =>
    rcases List.mem_cons.mp hc with rfl | hc
    · exact ⟨mem_of_step first.1, first.2⟩
    · exact ih hc

theorem top_mem_path (h : Ascent p t candidates s path e) : e ∈ s :: path := by
  induction h with
  | refl s => exact List.mem_cons_self
  | climb _ _ ih => exact List.mem_cons_of_mem _ ih

theorem top_mem (h : Ascent p t candidates s path e) : e ∈ s :: candidates := by
  rcases List.mem_cons.mp h.top_mem_path with rfl | he
  · exact List.mem_cons_self
  · exact List.mem_cons_of_mem _ (h.mem he).1

/-- Each certificate of an ascent vouches for the one before it, and so does the next step. -/
theorem isChain (h : Ascent p t candidates s path e) (hstep : step p t candidates e = .ok (some c)) :
    List.IsChain (fun a b => validateHop p t a b = .ok .valid) (s :: (path ++ [c])) := by
  induction h with
  | refl s => exact List.IsChain.cons_cons (validateHop_of_step hstep) (List.IsChain.singleton c)
  | climb first _ ih => exact List.IsChain.cons_cons (validateHop_of_step first.1) (ih hstep)

/-! ## Determinism -/

theorem comparable (h : Ascent p t candidates s path e) (h' : Ascent p t candidates s path' f)
    (hle : path.length ≤ path'.length) : ∃ r, path' = path ++ r ∧ Ascent p t candidates e r f := by
  induction h generalizing path' with
  | refl s => exact ⟨path', rfl, h'⟩
  | @climb s c top path first _ ih =>
    cases h' with
    | refl => simp at hle
    | climb first' rest' =>
      obtain rfl := first.unique first'
      obtain ⟨r, rfl, hr⟩ := ih rest' (by simpa using hle)
      exact ⟨r, rfl, hr⟩

theorem eq_nil (h : Ascent p t candidates s path e) (hs : Halted p t candidates s) :
    path = [] ∧ e = s := by
  cases h with
  | refl => exact ⟨rfl, rfl⟩
  | climb first _ => exact absurd first (hs _)

theorem length_le (h : Ascent p t candidates s path e) (he : Halted p t candidates e)
    (h' : Ascent p t candidates s path' f) : path'.length ≤ path.length := by
  by_contra hlt
  obtain ⟨r, rfl, hr⟩ := comparable h h' (by omega)
  obtain ⟨rfl, -⟩ := hr.eq_nil he
  simp at hlt

theorem unique (h : Ascent p t candidates s path e) (he : Halted p t candidates e)
    (h' : Ascent p t candidates s path' f) (hf : Halted p t candidates f) :
    path = path' ∧ e = f := by
  obtain ⟨r, rfl, hr⟩ := comparable h h' (length_le h' hf h)
  obtain ⟨rfl, rfl⟩ := hr.eq_nil he
  exact ⟨(List.append_nil _).symm, rfl⟩

theorem nodup (h : Ascent p t candidates s path e) (he : Halted p t candidates e) :
    (s :: path).Nodup := by
  induction h with
  | refl s => exact List.nodup_singleton s
  | @climb s c top path first rest ih =>
    refine List.nodup_cons.mpr ⟨fun hs => ?_, ih he⟩
    -- a second visit of `s` would give the longest ascent a longer one
    obtain ⟨before, after, hpath, hne, hb, -⟩ := split (.climb first rest) hs
    have hlong := length_le (.climb first rest) he (hb.trans (.climb first rest))
    rw [List.length_append] at hlong
    have := List.length_pos_iff.mpr hne
    omega

end Ascent

/-! ## Cycles -/

/-- The certificate after `s` on its walk, `s` itself where the walk ends. -/
def next (p : Provider) (t : Instant) (candidates : List Certificate) (s : Certificate) :
    Certificate :=
  match step p t candidates s with
  | .ok (some c) => c
  | _ => s

theorem next_of_climbsTo (h : ClimbsTo p t candidates s c) : next p t candidates s = c := by
  unfold next
  rw [h.1]

theorem Ascent.climbsTo_iterate (h : Ascent p t candidates s path e) {n : Nat}
    (hn : n < path.length) :
    ClimbsTo p t candidates ((next p t candidates)^[n] s) ((next p t candidates)^[n + 1] s) := by
  induction h generalizing n with
  | refl s => cases hn
  | climb first _ ih =>
    cases n with
    | zero =>
      rw [Function.iterate_one, next_of_climbsTo first]
      exact first
    | succ n =>
      rw [Function.iterate_succ_apply, Function.iterate_succ_apply _ (n + 1),
        next_of_climbsTo first]
      exact ih (by simpa using hn)

theorem Ascent.iterate_length (h : Ascent p t candidates s path e) :
    (next p t candidates)^[path.length] s = e := by
  induction h with
  | refl s => rfl
  | climb first _ ih =>
    rw [List.length_cons, Function.iterate_succ_apply, next_of_climbsTo first, ih]

/-- A loop can be gone round any number of times. -/
theorem Ascent.exists_length_ge (h : Ascent p t candidates s path s) (hne : path ≠ []) (n : Nat) :
    ∃ long, n ≤ long.length ∧ Ascent p t candidates s long s := by
  induction n with
  | zero => exact ⟨[], Nat.le_refl 0, .refl s⟩
  | succ n ih =>
    obtain ⟨long, hlong, hl⟩ := ih
    refine ⟨path ++ long, ?_, h.trans hl⟩
    have := List.length_pos_iff.mpr hne
    rw [List.length_append]
    omega

theorem ascent_of_climbsTo {w : Nat → Certificate}
    (hw : ∀ i, ClimbsTo p t candidates (w i) (w (i + 1))) (i n : Nat) :
    ∃ path, path.length = n ∧ Ascent p t candidates (w i) path (w (i + n)) := by
  induction n generalizing i with
  | zero => exact ⟨[], rfl, .refl _⟩
  | succ n ih =>
    obtain ⟨path, hlen, hpath⟩ := ih (i + 1)
    refine ⟨w (i + 1) :: path, by rw [List.length_cons, hlen], .climb (hw i) ?_⟩
    rwa [show i + (n + 1) = i + 1 + n by omega]

/-- Going round a cycle forever is coming back once. -/
theorem circles_iff :
    Circles p t candidates s ↔
      ∃ path top loop, Ascent p t candidates s path top ∧ Ascent p t candidates top loop top ∧
        loop ≠ [] := by
  constructor
  · rintro ⟨w, rfl, hw, i, k, hk, hperiod⟩
    obtain ⟨path, -, hpath⟩ := ascent_of_climbsTo hw 0 i
    obtain ⟨loop, hlen, hloop⟩ := ascent_of_climbsTo hw i k
    rw [Nat.zero_add] at hpath
    rw [hperiod i (Nat.le_refl i)] at hloop
    exact ⟨path, w i, loop, hpath, hloop, List.ne_nil_of_length_pos (by omega)⟩
  · rintro ⟨path, top, loop, hpath, hloop, hne⟩
    refine ⟨fun n => (next p t candidates)^[n] s, rfl, fun n => ?_, path.length, loop.length,
      List.length_pos_iff.mpr hne, fun j hj => ?_⟩
    · obtain ⟨long, hlong, hl⟩ := hloop.exists_length_ge hne (n + 1)
      refine (hpath.trans hl).climbsTo_iterate ?_
      rw [List.length_append]
      omega
    · -- both sides count from `top`, to which the loop comes back
      obtain ⟨m, rfl⟩ := Nat.exists_eq_add_of_le hj
      have hsplit : ∀ r, (next p t candidates)^[path.length + r] s =
          (next p t candidates)^[r] top := by
        intro r
        rw [Nat.add_comm, Function.iterate_add_apply, hpath.iterate_length]
      show (next p t candidates)^[path.length + m + loop.length] s =
        (next p t candidates)^[path.length + m] s
      rw [Nat.add_assoc, hsplit, hsplit, Function.iterate_add_apply, hloop.iterate_length]

/-- A walk that goes round a cycle never halts. -/
theorem Circles.not_halted (hs : Circles p t candidates s) (h : Ascent p t candidates s path e) :
    ¬ Halted p t candidates e := by
  intro he
  obtain ⟨path', top, loop, hpath, hloop, hne⟩ := circles_iff.mp hs
  obtain ⟨long, hlong, hl⟩ := hloop.exists_length_ge hne (path.length + 1)
  have := h.length_le he (hpath.trans hl)
  rw [List.length_append] at this
  omega

end ChainOfTrust.Chain
