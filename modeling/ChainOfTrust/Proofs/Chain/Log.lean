import Mathlib.Data.List.TakeWhile
import ChainOfTrust.Proofs.Chain.Faults
import ChainOfTrust.Proofs.Chain.Guard
import ChainOfTrust.Proofs.Chain.LogText

/-!
# The log of a validation

A validation that is `false` does not say what was wrong; its log does.

* `refusals` : the hops that fail before a scan stops, `scan_events` : what the scan reports, which
  is no more than these and a test for a root, all of the lowest level;
* `report` : what is reported along a path, `Climbed.events_eq` : the whole log of a climb;
* `Tells`, `validate_log` : what can be read from the log of a validation. The steps and the root are
  those of the climb, a cycle is reported where it ends the climb and nowhere else, and the failed
  hops are those of the candidates scanned (`mem_refusals_iff`).
-/

namespace ChainOfTrust

set_option autoImplicit false

namespace Chain

/-- What is reported in the end. -/
def Ending.events : Ending → List Event
  | root r => [.reachedRoot r]
  | cycle c => [.issuerCycle c]
  | noIssuer => []
  | fault _ => []

section Reports
variable (p : Provider) (t : Instant) (candidates : List Certificate)

/-- The scan for `s` goes on behind `c`. -/
def passes (s c : Certificate) : Bool :=
  match validateHop p t s c with
  | .ok .noMatch | .ok (.invalid _) => true
  | _ => false

def refusal? (s c : Certificate) : Option (Certificate × HopFailure) :=
  match validateHop p t s c with
  | .ok (.invalid reason) => some (c, reason)
  | _ => none

/-- The candidates to which the hop from `s` fails before the scan of `cs` stops, and why. -/
def refusals (s : Certificate) (cs : List Certificate) : List (Certificate × HopFailure) :=
  (cs.takeWhile (passes p t s)).filterMap (refusal? p t s)

def rejections (s : Certificate) (cs : List Certificate) : List Event :=
  (refusals p t s cs).map fun r => .hopFailed s r.1 r.2

/-- The test for a root where a scan stops. -/
def rootTest : Except TrustError (Option Certificate) → List Event
  | .ok (some c) => (isSelfSigned p c).events
  | _ => []

/-- The climb from `s` through `path`, which ends at `top`. -/
def report (top : Certificate) : Certificate → List Certificate → List Event
  | s, [] => (scan p t s candidates.reverse).events ++ (endingAt p t candidates top).events
  | s, c :: path => (scan p t s candidates.reverse).events ++ .climbed s c :: report top c path

end Reports

variable {p : Provider} {t : Instant} {candidates cs : List Certificate}
variable {s c top : Certificate} {path : List Certificate} {visited : List Bytes}
variable {reason : HopFailure} {e : Event}

/-! ## Hops -/

theorem agrees_of_validateHop_invalid (h : validateHop p t s c = .ok (.invalid reason)) :
    s.issuer.agrees c.subject = true := by
  unfold validateHop at h
  by_contra hname
  rw [Bool.not_eq_true] at hname
  rw [hname] at h
  cases h

theorem passes_eq_true_iff :
    passes p t s c = true ↔ ∃ outcome, validateHop p t s c = .ok outcome ∧ outcome ≠ .valid := by
  unfold passes
  cases validateHop p t s c with
  | error fault => simp
  | ok outcome => cases outcome <;> simp

theorem refusal?_eq_some_iff :
    refusal? p t s c = some (top, reason) ↔
      c = top ∧ validateHop p t s c = .ok (.invalid reason) := by
  unfold refusal?
  cases validateHop p t s c with
  | error fault => simp
  | ok outcome => cases outcome <;> simp

/-! ## Scans -/

theorem isSelfSigned_events (p : Provider) (c : Certificate) :
    (isSelfSigned p c).events = [] ∨
      ∃ reason, (isSelfSigned p c).events = [.notSelfSigned c reason] := by
  unfold isSelfSigned
  rcases checkSignature p c c.publicKey with fault | _ | reason
  · exact Or.inl rfl
  · exact Or.inl rfl
  · exact Or.inr ⟨reason, rfl⟩

theorem rootTest_eq (p : Provider) (stop : Except TrustError (Option Certificate)) :
    rootTest p stop = [] ∨ ∃ c reason, rootTest p stop = [.notSelfSigned c reason] := by
  rcases stop with fault | _ | c
  · exact Or.inl rfl
  · exact Or.inl rfl
  · exact (isSelfSigned_events p c).imp_right fun h => ⟨c, h⟩

theorem refusals_cons_of_noMatch (h : validateHop p t s c = .ok .noMatch) (cs : List Certificate) :
    refusals p t s (c :: cs) = refusals p t s cs := by
  have hnone : refusal? p t s c = none := by simp [refusal?, h]
  unfold refusals
  rw [List.takeWhile_cons_of_pos (passes_eq_true_iff.mpr ⟨_, h, nofun⟩),
    List.filterMap_cons_none hnone]

theorem refusals_cons_of_invalid (h : validateHop p t s c = .ok (.invalid reason))
    (cs : List Certificate) : refusals p t s (c :: cs) = (c, reason) :: refusals p t s cs := by
  unfold refusals
  rw [List.takeWhile_cons_of_pos (passes_eq_true_iff.mpr ⟨_, h, nofun⟩),
    List.filterMap_cons_some (refusal?_eq_some_iff.mpr ⟨rfl, h⟩)]

/-- The scan stops at a candidate that vouches and at an error. -/
theorem refusals_cons_of_stop (h : passes p t s c = false) (cs : List Certificate) :
    refusals p t s (c :: cs) = [] := by
  unfold refusals
  rw [List.takeWhile_cons_of_neg (Bool.eq_false_iff.mp h), List.filterMap_nil]

theorem passes_of_valid (h : validateHop p t s c = .ok .valid) : passes p t s c = false := by
  unfold passes
  rw [h]

theorem scan_events (cs : List Certificate) :
    (scan p t s cs).events = rejections p t s cs ++ rootTest p (firstVoucher p t s cs) := by
  induction cs with
  | nil => rfl
  | cons c rest ih =>
    unfold firstVoucher rejections
    cases hhop : validateHop p t s c with
    | error fault =>
      rw [scan, hhop, refusals_cons_of_stop (by simp [passes, hhop])]
      rfl
    | ok outcome =>
      cases outcome with
      | noMatch =>
        rw [scan, hhop, refusals_cons_of_noMatch hhop]
        exact ih
      | invalid reason =>
        rw [scan, hhop, refusals_cons_of_invalid hhop, List.map_cons]
        exact congrArg (Event.hopFailed s c reason :: ·) ih
      | valid =>
        rw [scan_cons_of_valid hhop, refusals_cons_of_stop (passes_of_valid hhop)]
        rfl

theorem exists_of_mem_rejections (h : e ∈ rejections p t s cs) :
    ∃ c reason, e = .hopFailed s c reason := by
  obtain ⟨⟨c, reason⟩, -, rfl⟩ := List.mem_map.mp h
  exact ⟨c, reason, rfl⟩

theorem filter_level_scan {l : Level} (hl : l ≠ .trace) :
    (scan p t s cs).events.filter (fun e => decide (e.level = l)) = [] := by
  refine List.filter_eq_nil_iff.mpr fun e he => ?_
  have htrace : e.level = .trace := by
    rw [scan_events, List.mem_append] at he
    rcases he with he | he
    · obtain ⟨c, reason, rfl⟩ := exists_of_mem_rejections he
      rfl
    · rcases rootTest_eq p (firstVoucher p t s cs) with htest | ⟨c, reason, htest⟩
      · rw [htest] at he
        cases he
      · rw [htest, List.mem_singleton] at he
        rw [he]
        rfl
  rw [htrace, decide_eq_true_eq]
  exact hl.symm

theorem filter_isHopFailure_scan :
    (scan p t s cs).events.filter Event.isHopFailure = rejections p t s cs := by
  have hhops : (rejections p t s cs).filter Event.isHopFailure = rejections p t s cs := by
    refine List.filter_eq_self.mpr fun e he => ?_
    obtain ⟨c, reason, rfl⟩ := exists_of_mem_rejections he
    rfl
  have htest : (rootTest p (firstVoucher p t s cs)).filter Event.isHopFailure = [] := by
    rcases rootTest_eq p (firstVoucher p t s cs) with htest | ⟨c, reason, htest⟩
    · rw [htest]
      rfl
    · rw [htest]
      rfl
  rw [scan_events, List.filter_append, hhops, htest, List.append_nil]

/-! ## Climbs -/

theorem climb_events (visited : List Bytes) (s : Certificate) :
    (climb p t candidates visited s).events = (scan p t s candidates.reverse).events ++
      match endingAt p t candidates s with
      | .cycle c =>
        if c.fingerprint ∈ visited then [.issuerCycle c]
        else .climbed s c :: (climb p t candidates (c.fingerprint :: visited) c).events
      | ending => ending.events := by
  have hout := scan_outcome (p := p) (t := t) (s := s) candidates.reverse
  rw [climb_eq]
  unfold endingAt step
  rcases hscan : scan p t s candidates.reverse with ⟨events, outcome⟩
  rw [hscan] at hout
  subst hout
  rcases firstVoucher p t s candidates.reverse with fault | _ | c
  · simp [Ending.events]
  · simp [Ending.events]
  · simp only [linkTo]
    rcases (isSelfSigned p c).outcome with fault | _ | _
    · simp [Ending.events, Except.map]
    · by_cases hv : c.fingerprint ∈ visited
      · simp [Except.map, hv]
      · simp [Except.map, hv, Logged.after]
    · simp [Ending.events, Except.map]

theorem climb_events_of_climbsTo (h : ClimbsTo p t candidates s c) (hv : c.fingerprint ∉ visited) :
    (climb p t candidates visited s).events = (scan p t s candidates.reverse).events ++
      .climbed s c :: (climb p t candidates (c.fingerprint :: visited) c).events := by
  rw [climb_events, endingAt_eq_cycle_iff.mpr h]
  simp only [if_neg hv]

theorem climb_events_of_stuck
    (h : ∀ c, endingAt p t candidates s = .cycle c → c.fingerprint ∈ visited) :
    (climb p t candidates visited s).events = (scan p t s candidates.reverse).events ++
      (endingAt p t candidates s).events := by
  rw [climb_events]
  cases hending : endingAt p t candidates s with
  | cycle c =>
    simp only [if_pos (h c hending)]
    rfl
  | _ => rfl

theorem Climbed.events_eq (h : Climbed p t candidates visited s path top) :
    (climb p t candidates visited s).events = report p t candidates top s path := by
  have hascent := h.ascent
  induction hascent generalizing visited with
  | refl s =>
    exact climb_events_of_stuck fun c hc => (h.cycle c hc).resolve_right List.not_mem_nil
  | climb first rest ih =>
    rw [climb_events_of_climbsTo first (h.fresh _ List.mem_cons_self), ih (h.tail rest)]
    rfl

/-! ## Reports -/

theorem filter_level_report {l : Level} (hl : l ≠ .trace) (s : Certificate)
    (path : List Certificate) :
    (report p t candidates top s path).filter (fun e => decide (e.level = l)) =
      (List.zipWith Event.climbed (s :: path) path ++ (endingAt p t candidates top).events).filter
        (fun e => decide (e.level = l)) := by
  induction path generalizing s with
  | nil =>
    rw [report, List.filter_append, filter_level_scan hl]
    rfl
  | cons c path ih =>
    rw [report, List.filter_append, filter_level_scan hl, List.nil_append, List.zipWith_cons_cons,
      List.cons_append, List.filter_cons, List.filter_cons, ih]

theorem filter_isHopFailure_report (s : Certificate) (path : List Certificate) :
    (report p t candidates top s path).filter Event.isHopFailure =
      (s :: path).flatMap fun a => rejections p t a candidates.reverse := by
  induction path generalizing s with
  | nil =>
    have hend : (endingAt p t candidates top).events.filter Event.isHopFailure = [] := by
      cases endingAt p t candidates top <;> rfl
    rw [report, List.filter_append, filter_isHopFailure_scan, hend]
    rfl
  | cons c path ih =>
    rw [report, List.filter_append, filter_isHopFailure_scan, List.flatMap_cons,
      List.filter_cons_of_neg Bool.false_ne_true, ih]

/-! ## The log -/

theorem mem_takeWhile_iff {q : Certificate → Bool} :
    c ∈ cs.takeWhile q ↔
      (∃ front back, cs = front ++ c :: back ∧ ∀ d ∈ front, q d = true) ∧ q c = true := by
  constructor
  · intro hc
    refine ⟨?_, List.mem_takeWhile_imp hc⟩
    obtain ⟨front, back, hfront⟩ := List.append_of_mem hc
    refine ⟨front, back ++ cs.dropWhile q, ?_, fun d hd => ?_⟩
    · rw [← List.cons_append, ← List.append_assoc, ← hfront, List.takeWhile_append_dropWhile]
    · exact List.mem_takeWhile_imp (hfront ▸ List.mem_append_left _ hd)
  · rintro ⟨⟨front, back, rfl, hfront⟩, hc⟩
    rw [List.takeWhile_append_of_pos hfront, List.takeWhile_cons_of_pos hc]
    exact List.mem_append_right _ List.mem_cons_self

theorem scanned_iff :
    Scanned p t candidates s c ↔
      ∃ front back, candidates.reverse = front ++ c :: back ∧ ∀ d ∈ front, passes p t s d = true := by
  have hpasses : ∀ ds : List Certificate,
      step p t ds s = .ok none ↔ ∀ d ∈ ds.reverse, passes p t s d = true := fun ds =>
    firstVoucher_eq_none_iff.trans (forall₂_congr fun _ _ => passes_eq_true_iff.symm)
  constructor
  · rintro ⟨before, after, rfl, hafter⟩
    exact ⟨after.reverse, before.reverse, by simp, (hpasses after).mp hafter⟩
  · rintro ⟨front, back, hsplit, hfront⟩
    refine ⟨back.reverse, front.reverse, ?_, ?_⟩
    · rw [← List.reverse_reverse candidates, hsplit]
      simp
    · rw [hpasses, List.reverse_reverse]
      exact hfront

/-- The hops that fail are those of candidates that were scanned. -/
theorem mem_refusals_iff :
    (c, reason) ∈ refusals p t s candidates.reverse ↔
      Scanned p t candidates s c ∧ validateHop p t s c = .ok (.invalid reason) := by
  unfold refusals
  rw [List.mem_filterMap, scanned_iff]
  constructor
  · rintro ⟨d, hd, hrefusal⟩
    obtain ⟨rfl, hhop⟩ := refusal?_eq_some_iff.mp hrefusal
    exact ⟨(mem_takeWhile_iff.mp hd).1, hhop⟩
  · rintro ⟨hscanned, hhop⟩
    have hc : passes p t s c = true := passes_eq_true_iff.mpr ⟨_, hhop, nofun⟩
    exact ⟨c, mem_takeWhile_iff.mpr ⟨hscanned, hc⟩, refusal?_eq_some_iff.mpr ⟨rfl, hhop⟩⟩

theorem mem_rejections_iff {a : Certificate} :
    .hopFailed a c reason ∈ rejections p t s candidates.reverse ↔
      s = a ∧ Scanned p t candidates s c ∧ validateHop p t s c = .ok (.invalid reason) := by
  unfold rejections
  rw [List.mem_map, ← mem_refusals_iff]
  constructor
  · rintro ⟨⟨d, why⟩, hrefusal, hevent⟩
    cases hevent
    exact ⟨rfl, hrefusal⟩
  · rintro ⟨rfl, hrefusal⟩
    exact ⟨(c, reason), hrefusal, rfl⟩

/-- What the log of a validation tells of the climb from `s` through `path` to `top`, as events and as
the texts that are read. -/
structure Tells (p : Provider) (t : Instant) (candidates : List Certificate) (s : Certificate)
    (path : List Certificate) (top : Certificate) (x : Logged Bool) : Prop where
  /-- Step by step, and then the root if one is reached. -/
  progress :
    (∃ r, endingAt p t candidates top = .root r ∧ x.outcome = .ok true ∧
      x.ofLevel .debug = List.zipWith Event.climbed (s :: path) path ++ [.reachedRoot r] ∧
      ∀ w, x.texts w .debug = List.zipWith stepText (s :: path) path ++ [rootText r]) ∨
    (x.outcome ≠ .ok true ∧ x.ofLevel .debug = List.zipWith Event.climbed (s :: path) path ∧
      ∀ w, x.texts w .debug = List.zipWith stepText (s :: path) path)
  warning :
    (∃ c, endingAt p t candidates top = .cycle c ∧
      c.fingerprint ∈ (s :: path).map Certificate.fingerprint ∧ x.outcome = .ok false ∧
      x.ofLevel .warn = [.issuerCycle c] ∧ x.events.getLast? = some (.issuerCycle c) ∧
      ∀ w, x.texts w .warn = [cycleText c] ∧
        (x.lines w).getLast? = some ("warn: " ++ cycleText c)) ∨
    ((∀ c, endingAt p t candidates top ≠ .cycle c) ∧ x.ofLevel .warn = [] ∧
      ∀ w, x.texts w .warn = [])
  /-- In the order of the path, and for each certificate from the last candidate to the first. -/
  failures :
    x.hopFailures = ((s :: path).flatMap fun a => rejections p t a candidates.reverse) ∧
    ∀ w, (x.texts w .trace).filter saysFailed = (s :: path).flatMap fun a =>
      (refusals p t a candidates.reverse).map fun r => failureText a r.1 r.2
  failed : ∀ a c reason, .hopFailed a c reason ∈ x.events ↔
    a ∈ s :: path ∧ Scanned p t candidates a c ∧ a.issuer.agrees c.subject = true ∧
      validateHop p t a c = .ok (.invalid reason)

/-! ## What is read -/

theorem map_message_moves (w : Wording) (s : Certificate) (path : List Certificate) :
    (List.zipWith Event.climbed (s :: path) path).map (fun e => e.message w) =
      List.zipWith stepText (s :: path) path := by
  rw [List.map_zipWith]
  simp only [message_climbed]

theorem map_message_rejections (w : Wording) (s : Certificate) (cs : List Certificate) :
    (rejections p t s cs).map (fun e => e.message w) =
      (refusals p t s cs).map fun r => failureText s r.1 r.2 := by
  unfold rejections
  rw [List.map_map]
  exact List.map_congr_left fun r _ => message_hopFailed w

theorem texts_of_ofLevel {α : Type} {x : Logged α} {l : Level} {events : List Event}
    (h : x.ofLevel l = events) (w : Wording) : x.texts w l = events.map fun e => e.message w := by
  rw [Logged.texts, h]

theorem level_of_mem_moves {as bs : List Certificate}
    (h : e ∈ List.zipWith Event.climbed as bs) : e.level = .debug := by
  rw [← List.map_uncurry_zip_eq_zipWith] at h
  obtain ⟨⟨a, b⟩, -, rfl⟩ := List.mem_map.mp h
  rfl

theorem ofLevel_debug_of_report {x : Logged Bool}
    (h : x.events = report p t candidates top s path) :
    x.ofLevel .debug = List.zipWith Event.climbed (s :: path) path ++
      (endingAt p t candidates top).events.filter (fun e => decide (e.level = .debug)) := by
  have hmoves : (List.zipWith Event.climbed (s :: path) path).filter
      (fun e => decide (e.level = .debug)) = List.zipWith Event.climbed (s :: path) path :=
    List.filter_eq_self.mpr fun e he => decide_eq_true (level_of_mem_moves he)
  rw [Logged.ofLevel, h, filter_level_report (by decide), List.filter_append, hmoves]

theorem ofLevel_warn_of_report {x : Logged Bool}
    (h : x.events = report p t candidates top s path) :
    x.ofLevel .warn =
      (endingAt p t candidates top).events.filter (fun e => decide (e.level = .warn)) := by
  have hmoves : (List.zipWith Event.climbed (s :: path) path).filter
      (fun e => decide (e.level = .warn)) = [] := by
    refine List.filter_eq_nil_iff.mpr fun e he => ?_
    rw [level_of_mem_moves he]
    decide
  rw [Logged.ofLevel, h, filter_level_report (by decide), List.filter_append, hmoves,
    List.nil_append]

theorem getLast?_report (h : (endingAt p t candidates top).events = [e]) (s : Certificate)
    (path : List Certificate) : (report p t candidates top s path).getLast? = some e := by
  induction path generalizing s with
  | nil => rw [report, h, List.getLast?_append, List.getLast?_singleton, Option.some_or]
  | cons c path ih =>
    rw [report, List.getLast?_append, List.getLast?_cons, ih c]
    rfl

theorem hopFailed_mem_iff {α : Type} {x : Logged α} {as : List Certificate} {a : Certificate}
    (h : x.hopFailures = as.flatMap fun b => rejections p t b candidates.reverse) :
    .hopFailed a c reason ∈ x.events ↔
      a ∈ as ∧ Scanned p t candidates a c ∧ a.issuer.agrees c.subject = true ∧
        validateHop p t a c = .ok (.invalid reason) := by
  have hmem : .hopFailed a c reason ∈ x.events ↔ .hopFailed a c reason ∈ x.hopFailures := by
    rw [Logged.hopFailures, List.mem_filter, Event.isHopFailure, and_iff_left rfl]
  rw [hmem, h, List.mem_flatMap]
  constructor
  · rintro ⟨b, hb, hevent⟩
    obtain ⟨rfl, hscanned, hhop⟩ := mem_rejections_iff.mp hevent
    exact ⟨hb, hscanned, agrees_of_validateHop_invalid hhop, hhop⟩
  · rintro ⟨ha, hscanned, -, hhop⟩
    exact ⟨a, ha, mem_rejections_iff.mpr ⟨rfl, hscanned, hhop⟩⟩

theorem Climbed.tells (h : Climbed p t candidates [s.fingerprint] s path top) :
    Tells p t candidates s path top (validate p t s candidates) := by
  have hevents : (validate p t s candidates).events = report p t candidates top s path := h.events_eq
  have hout : (validate p t s candidates).outcome = (endingAt p t candidates top).outcome :=
    h.outcome
  have hdebug := ofLevel_debug_of_report hevents
  have hwarn := ofLevel_warn_of_report hevents
  have hfailures : (validate p t s candidates).hopFailures =
      (s :: path).flatMap fun a => rejections p t a candidates.reverse := by
    rw [Logged.hopFailures, hevents, filter_isHopFailure_report]
  refine ⟨?_, ?_, ⟨hfailures, fun w => ?_⟩, fun a c reason => ?_⟩
  · rw [hout]
    cases hending : endingAt p t candidates top with
    | root r =>
      rw [hending] at hdebug
      refine Or.inl ⟨r, rfl, rfl, hdebug, fun w => ?_⟩
      rw [texts_of_ofLevel hdebug, List.map_append, map_message_moves]
      exact congrArg (_ ++ [·]) (message_reachedRoot w)
    | _ =>
      rw [hending] at hdebug
      have hmoves := hdebug.trans (List.append_nil _)
      exact Or.inr ⟨nofun, hmoves, fun w => (texts_of_ofLevel hmoves w).trans
        (map_message_moves w s path)⟩
  · rw [hout]
    cases hending : endingAt p t candidates top with
    | cycle c =>
      rw [hending] at hwarn
      have hlast : (validate p t s candidates).events.getLast? = some (.issuerCycle c) := by
        rw [hevents]
        exact getLast?_report (by rw [hending, Ending.events]) s path
      refine Or.inl ⟨c, rfl, ?_, rfl, hwarn, hlast, fun w => ⟨?_, ?_⟩⟩
      · rw [List.map_cons, List.mem_cons]
        exact (h.cycle c hending).imp_left List.mem_singleton.mp
      · rw [texts_of_ofLevel hwarn]
        exact congrArg ([·]) (message_issuerCycle w)
      · rw [Logged.lines, List.getLast?_map, hlast, ← message_issuerCycle w]
        rfl
    | _ =>
      rw [hending] at hwarn
      refine Or.inr ⟨fun c hc => ?_, hwarn, texts_of_ofLevel hwarn⟩
      cases hc
  · rw [filter_texts, hfailures, List.map_flatMap]
    simp only [map_message_rejections]
  · exact hopFailed_mem_iff hfailures

/-- **The log of a validation tells its climb**: one text a step, one for the root if and only if the
validation succeeds, a warning if and only if it came back to a certificate, and the failed hops of
each scan with their reasons. -/
theorem validate_log (p : Provider) (t : Instant) (s : Certificate) (candidates : List Certificate) :
    (∃ path top, Climbed p t candidates [s.fingerprint] s path top ∧
      Tells p t candidates s path top (validate p t s candidates)) ∧
    ∀ a c reason reason', failureText a c reason = failureText a c reason' → reason = reason' := by
  obtain ⟨path, top, h, -⟩ := climb_ends p t candidates [s.fingerprint] s
  exact ⟨⟨path, top, h, h.tells⟩, fun _ _ _ _ => failureText_injective⟩

/-! ## Two logs -/

theorem endingAt_middle :
    endingAt .standard september crowdedStore middleCertificate = .root rootCertificate :=
  endingAt_eq_root_iff.mpr ⟨step_middle, isSelfSigned_root⟩

theorem endingAt_west :
    endingAt .standard september crossedStore westCertificate = .cycle eastCertificate :=
  endingAt_eq_cycle_iff.mpr climbsTo_east

theorem climbed_server :
    Climbed .standard september crowdedStore [serverCertificate.fingerprint] serverCertificate
      [middleCertificate] middleCertificate := by
  have hnew : middleCertificate.fingerprint ∉ [serverCertificate.fingerprint] := by
    intro h
    obtain ⟨hserver, -, hmiddle, -⟩ := fingerprint_heads_crowded
    rw [List.mem_singleton.mp h, hserver] at hmiddle
    cases hmiddle
  refine .rise climbsTo_middle hnew (.here fun c hc => ?_)
  rw [endingAt_middle] at hc
  cases hc

theorem climbed_east :
    Climbed .standard september crossedStore [eastCertificate.fingerprint] eastCertificate
      [westCertificate] westCertificate := by
  have hnew : westCertificate.fingerprint ∉ [eastCertificate.fingerprint] := by
    intro h
    obtain ⟨heast, hwest⟩ := fingerprint_heads_crossed
    rw [List.mem_singleton.mp h, heast] at hwest
    cases hwest
  refine .rise climbsTo_west hnew (.here fun c hc => ?_)
  rw [endingAt_west] at hc
  rw [← Ending.cycle.inj hc]
  exact List.mem_cons_of_mem _ List.mem_cons_self

theorem refusals_server :
    refusals .standard september serverCertificate crowdedStore.reverse =
      [(strangerCertificate, .signatureMismatch)] := by
  obtain ⟨hstranger, hmiddle, -⟩ := hops_crowdedStore
  show refusals .standard september serverCertificate
    [strangerCertificate, middleCertificate, middleCertificate, rootCertificate] = _
  rw [refusals_cons_of_invalid hstranger, refusals_cons_of_stop (passes_of_valid hmiddle)]

theorem refusals_middle :
    refusals .standard september middleCertificate crowdedStore.reverse = [] := by
  obtain ⟨-, -, hstranger, hmiddle, hroot, -⟩ := hops_crowdedStore
  show refusals .standard september middleCertificate
    [strangerCertificate, middleCertificate, middleCertificate, rootCertificate] = _
  rw [refusals_cons_of_noMatch hstranger, refusals_cons_of_noMatch hmiddle,
    refusals_cons_of_noMatch hmiddle, refusals_cons_of_stop (passes_of_valid hroot)]

/-- A climb with a step and a failed hop to a root, and one that comes back to where it began. -/
theorem validate_server_log :
    ((validate .standard september serverCertificate crowdedStore).texts {} .debug =
        ["validating [CN=Server] via: [CN=Middle]", "validating root [CN=Root]"] ∧
      ((validate .standard september serverCertificate crowdedStore).texts {} .trace).filter
          saysFailed =
        ["validation of [CN=Server] via [CN=Middle] failed: " ++
          "signature does not verify under the issuer key, checking next candidate"]) ∧
    (validate .standard september eastCertificate crossedStore).texts {} .debug =
      ["validating [CN=East] via: [CN=West]"] ∧
    (validate .standard september eastCertificate crossedStore).texts {} .warn =
      ["issuer cycle: [CN=East] (" ++
        "4cf45d2c7536574c95c5b2005714e6621cff657f272759165ada3161382781dd" ++
        ") was already visited, giving up"] := by
  obtain ⟨⟨path, top, h, htells⟩, -⟩ :=
    validate_log .standard september serverCertificate crowdedStore
  obtain ⟨hpath, htop⟩ := h.unique climbed_server
  obtain ⟨⟨path', top', h', htells'⟩, -⟩ :=
    validate_log .standard september eastCertificate crossedStore
  obtain ⟨hpath', htop'⟩ := h'.unique climbed_east
  rw [hpath, htop] at htells
  rw [hpath', htop'] at htells'
  refine ⟨⟨?_, ?_⟩, ?_, ?_⟩
  · rcases htells.progress with ⟨r, hr, -, -, htexts⟩ | ⟨hfalse, -, -⟩
    · rw [endingAt_middle] at hr
      rw [htexts, ← Ending.root.inj hr]
      decide +kernel
    · have hout := climbed_server.outcome
      rw [endingAt_middle] at hout
      exact absurd hout hfalse
  · rw [htells.failures.2, List.flatMap_cons, List.flatMap_singleton, refusals_server,
      refusals_middle]
    decide +kernel
  · rcases htells'.progress with ⟨r, hr, -, -, -⟩ | ⟨-, -, htexts⟩
    · rw [endingAt_west] at hr
      cases hr
    · rw [htexts]
      decide +kernel
  · rcases htells'.warning with ⟨c, hc, -, -, -, -, htexts⟩ | ⟨hno, -, -⟩
    · rw [endingAt_west] at hc
      rw [(htexts {}).1, ← Ending.cycle.inj hc]
      decide +kernel
    · exact absurd endingAt_west (hno eastCertificate)

end Chain

end ChainOfTrust
