import Mathlib.Logic.Basic
import ChainOfTrust.Chain.Climb
import ChainOfTrust.Proofs.Signature.Resolution

/-!
# One step of a climb

* `validateHop_eq_valid_iff`, `isSelfSigned_outcome` : what a hop and the test for a root look at;
* `step` : the candidate that a scan from last to first stops at, named without the visited
  fingerprints and without the test for a root;
* `scan_outcome`, `climb_outcome` : a scan is a step and that test, a climb is a scan and the guard
  against cycles. The subject is never passed over: a certificate that vouches for itself is a root
  (`isSelfSigned_of_hop_self`).
-/

namespace ChainOfTrust.Chain

set_option autoImplicit false

variable {p : Provider} {t : Instant} {s c d : Certificate} {fault : TrustError}

/-! ## Hops -/

theorem validateHop_eq_valid_iff :
    validateHop p t s c = .ok .valid ↔
      s.issuer.agrees c.subject = true ∧ checkSignature p s c.publicKey = .ok none ∧
        standingAt s t = .valid := by
  unfold validateHop
  cases s.issuer.agrees c.subject with
  | false => simp
  | true =>
    cases hk : checkSignature p s c.publicKey with
    | error e => simp [bind, Except.bind]
    | ok reason => cases reason <;> simp [bind, Except.bind]

theorem validateHop_eq_error_iff :
    validateHop p t s c = .error fault ↔
      s.issuer.agrees c.subject = true ∧ checkSignature p s c.publicKey = .error fault := by
  unfold validateHop
  cases s.issuer.agrees c.subject with
  | false => simp
  | true =>
    cases hk : checkSignature p s c.publicKey with
    | error e => simp [bind, Except.bind]
    | ok reason => cases reason <;> simp [bind, Except.bind]

/-- Of a candidate only the name and the key are looked at. -/
theorem validateHop_congr (hname : s.issuer.agrees c.subject = s.issuer.agrees d.subject)
    (hkey : c.publicKey = d.publicKey) : validateHop p t s c = validateHop p t s d := by
  unfold validateHop
  rw [hname, hkey]

/-! ## Roots -/

theorem isSelfSigned_outcome :
    (isSelfSigned p c).outcome = (checkSignature p c c.publicKey).map Option.isNone := by
  unfold isSelfSigned
  cases h : checkSignature p c c.publicKey with
  | error e => rfl
  | ok reason => cases reason <;> rfl

theorem isSelfSigned_of_hop_self (h : validateHop p t c c = .ok .valid) :
    (isSelfSigned p c).outcome = .ok true := by
  rw [isSelfSigned_outcome, (validateHop_eq_valid_iff.mp h).2.1]
  rfl

/-- The test for a root does not fail on a certificate between two good hops. -/
theorem isSelfSigned_ne_error (hup : validateHop p t c d = .ok .valid)
    (hdown : validateHop p t s c = .ok .valid) (fault : TrustError) :
    (isSelfSigned p c).outcome ≠ .error fault := by
  have hne := checkSignature_ne_error (validateHop_eq_valid_iff.mp hup).2.1
    (validateHop_eq_valid_iff.mp hdown).2.1
  rw [isSelfSigned_outcome]
  cases h : checkSignature p c c.publicKey with
  | error e => exact absurd h (hne e)
  | ok reason => exact nofun

/-! ## Steps -/

variable (p t) in
/-- The first of the candidates that vouches for `subject`, unless an error comes first. -/
def firstVoucher (subject : Certificate) : List Certificate → Except TrustError (Option Certificate)
  | [] => .ok none
  | c :: rest =>
    match validateHop p t subject c with
    | .error fault => .error fault
    | .ok .valid => .ok (some c)
    | .ok _ => firstVoucher subject rest

variable (p t) in
/-- Where a scan of the candidates from last to first stops. -/
def step (candidates : List Certificate) (subject : Certificate) :
    Except TrustError (Option Certificate) :=
  firstVoucher p t subject candidates.reverse

theorem mem_of_firstVoucher {cs : List Certificate} (h : firstVoucher p t s cs = .ok (some c)) :
    c ∈ cs ∧ validateHop p t s c = .ok .valid := by
  induction cs with
  | nil => cases h
  | cons d rest ih =>
    unfold firstVoucher at h
    split at h
    · cases h
    · rename_i hvalid
      cases h
      exact ⟨List.mem_cons_self, hvalid⟩
    · exact ⟨List.mem_cons_of_mem _ (ih h).1, (ih h).2⟩

theorem firstVoucher_append {cs ds : List Certificate} :
    firstVoucher p t s (cs ++ ds) =
      match firstVoucher p t s cs with
      | .ok none => firstVoucher p t s ds
      | found => found := by
  induction cs with
  | nil => rfl
  | cons c rest ih =>
    rw [List.cons_append, firstVoucher, firstVoucher]
    cases validateHop p t s c with
    | error e => rfl
    | ok outcome =>
      cases outcome with
      | valid => rfl
      | noMatch => exact ih
      | invalid reason => exact ih

/-- A scan runs out when no candidate vouches and none makes it fail. -/
theorem firstVoucher_eq_none_iff {cs : List Certificate} :
    firstVoucher p t s cs = .ok none ↔
      ∀ c ∈ cs, ∃ outcome, validateHop p t s c = .ok outcome ∧ outcome ≠ .valid := by
  induction cs with
  | nil => simp [firstVoucher]
  | cons c rest ih =>
    rw [List.forall_mem_cons, ← ih, firstVoucher]
    cases validateHop p t s c with
    | error e => simp
    | ok outcome => cases outcome <;> simp

/-- A scan fails at the first candidate that stops it. -/
theorem firstVoucher_eq_error_iff {cs : List Certificate} :
    firstVoucher p t s cs = .error fault ↔
      ∃ front c back, cs = front ++ c :: back ∧ firstVoucher p t s front = .ok none ∧
        validateHop p t s c = .error fault := by
  constructor
  · intro h
    induction cs with
    | nil => cases h
    | cons d rest ih =>
      unfold firstVoucher at h
      split at h
      · rename_i hfault
        cases h
        exact ⟨[], d, rest, rfl, rfl, hfault⟩
      · cases h
      · rename_i outcome hvalid hhop
        obtain ⟨front, c, back, rfl, hfront, hfault⟩ := ih h
        refine ⟨d :: front, c, back, rfl, ?_, hfault⟩
        have hrest := firstVoucher_eq_none_iff.mp hfront
        exact firstVoucher_eq_none_iff.mpr (List.forall_mem_cons.mpr ⟨⟨outcome, hhop, hvalid⟩, hrest⟩)
  · rintro ⟨front, c, back, rfl, hfront, hfault⟩
    rw [firstVoucher_append, hfront]
    simp only [firstVoucher, hfault]

theorem exists_of_firstVoucher_error {cs : List Certificate}
    (h : firstVoucher p t s cs = .error fault) : ∃ c ∈ cs, validateHop p t s c = .error fault := by
  obtain ⟨front, c, back, rfl, -, hfault⟩ := firstVoucher_eq_error_iff.mp h
  exact ⟨c, List.mem_append_right front List.mem_cons_self, hfault⟩

/-- A certificate that vouches is not passed over. -/
theorem firstVoucher_ne_none {cs : List Certificate} (hc : c ∈ cs)
    (hvalid : validateHop p t s c = .ok .valid) : firstVoucher p t s cs ≠ .ok none := by
  intro h
  obtain ⟨outcome, hhop, hne⟩ := firstVoucher_eq_none_iff.mp h c hc
  rw [hvalid] at hhop
  cases hhop
  exact hne rfl

theorem mem_of_step {candidates : List Certificate} (h : step p t candidates s = .ok (some c)) :
    c ∈ candidates :=
  List.mem_reverse.mp (mem_of_firstVoucher h).1

theorem validateHop_of_step {candidates : List Certificate}
    (h : step p t candidates s = .ok (some c)) : validateHop p t s c = .ok .valid :=
  (mem_of_firstVoucher h).2

/-! ## Scans and climbs -/

/-- What a scan commits to when it stops at `c`. -/
def linkTo (p : Provider) (c : Certificate) : Except TrustError (Option Link) :=
  (isSelfSigned p c).outcome.map fun isRoot => some (if isRoot then .root c else .issuer c)

theorem linkTo_ne_none : linkTo p c ≠ .ok none := by
  unfold linkTo
  cases (isSelfSigned p c).outcome with
  | error e => exact nofun
  | ok isRoot => simp [Except.map]

theorem eq_of_linkTo_issuer (h : linkTo p d = .ok (some (.issuer c))) :
    d = c ∧ (isSelfSigned p c).outcome = .ok false := by
  unfold linkTo at h
  rcases hself : (isSelfSigned p d).outcome with e | _ | _
  · rw [hself] at h
    cases h
  · rw [hself] at h
    cases h
    exact ⟨rfl, hself⟩
  · rw [hself] at h
    cases h

/-- A scan stops at a candidate that vouches, and never passes it over. -/
theorem scan_cons_of_valid (h : validateHop p t s c = .ok .valid) (rest : List Certificate) :
    scan p t s (c :: rest) = ⟨(isSelfSigned p c).events, linkTo p c⟩ := by
  unfold scan linkTo
  rw [h]
  simp only
  cases hself : (isSelfSigned p c).outcome with
  | error e => rfl
  | ok isRoot =>
    cases isRoot with
    | true => rfl
    | false =>
      -- a certificate that vouches for itself is a root, so `c` is another one
      have hne : c ≠ s := by
        rintro rfl
        rw [isSelfSigned_of_hop_self h] at hself
        cases hself
      simp only [if_neg hne]
      rfl

theorem scan_outcome (cs : List Certificate) :
    (scan p t s cs).outcome =
      match firstVoucher p t s cs with
      | .error fault => .error fault
      | .ok none => .ok none
      | .ok (some c) => linkTo p c := by
  induction cs with
  | nil => rfl
  | cons c rest ih =>
    unfold firstVoucher
    cases hhop : validateHop p t s c with
    | error e => rw [scan, hhop]
    | ok outcome =>
      cases outcome with
      | noMatch =>
        rw [scan, hhop]
        exact ih
      | invalid reason =>
        rw [scan, hhop]
        exact ih
      | valid => rw [scan_cons_of_valid hhop]

/-- What stands behind the place where a scan stops is not looked at. -/
theorem scan_append {cs : List Certificate} (ds : List Certificate)
    (h : (scan p t s cs).outcome ≠ .ok none) : scan p t s (cs ++ ds) = scan p t s cs := by
  induction cs with
  | nil => exact absurd rfl h
  | cons c rest ih =>
    rw [List.cons_append]
    cases hhop : validateHop p t s c with
    | error e => rw [scan, scan, hhop]
    | ok outcome =>
      cases outcome with
      | noMatch =>
        rw [scan, hhop] at h ⊢
        rw [scan, hhop]
        exact ih h
      | invalid reason =>
        rw [scan, hhop] at h ⊢
        rw [scan, hhop]
        rw [ih h]
      | valid => rw [scan_cons_of_valid hhop, scan_cons_of_valid hhop]

theorem climb_eq (candidates : List Certificate) (visited : List Bytes) (s : Certificate) :
    climb p t candidates visited s =
      match scan p t s candidates.reverse with
      | ⟨events, .error fault⟩ => ⟨events, .error fault⟩
      | ⟨events, .ok none⟩ => ⟨events, .ok false⟩
      | ⟨events, .ok (some (.root c))⟩ => ⟨events ++ [.reachedRoot c], .ok true⟩
      | ⟨events, .ok (some (.issuer c))⟩ =>
        if c.fingerprint ∈ visited then ⟨events ++ [.issuerCycle c], .ok false⟩
        else (climb p t candidates (c.fingerprint :: visited) c).after
          (events ++ [.climbed s c]) := by
  rw [climb]
  split <;> simp only [*]

theorem climb_outcome_of_scan (candidates : List Certificate) (visited : List Bytes)
    (s : Certificate) :
    (climb p t candidates visited s).outcome =
      match (scan p t s candidates.reverse).outcome with
      | .error fault => .error fault
      | .ok none => .ok false
      | .ok (some (.root _)) => .ok true
      | .ok (some (.issuer c)) =>
        if c.fingerprint ∈ visited then .ok false
        else (climb p t candidates (c.fingerprint :: visited) c).outcome := by
  rw [climb_eq]
  rcases scan p t s candidates.reverse with ⟨events, fault | _ | ⟨c⟩ | ⟨c⟩⟩
  · rfl
  · rfl
  · rfl
  · simp only
    split <;> rfl

/-- A climb without its events: a step, the test for a root, the guard. -/
theorem climb_outcome (candidates : List Certificate) (visited : List Bytes) (s : Certificate) :
    (climb p t candidates visited s).outcome =
      match step p t candidates s with
      | .error fault => .error fault
      | .ok none => .ok false
      | .ok (some c) =>
        match (isSelfSigned p c).outcome with
        | .error fault => .error fault
        | .ok true => .ok true
        | .ok false =>
          if c.fingerprint ∈ visited then .ok false
          else (climb p t candidates (c.fingerprint :: visited) c).outcome := by
  rw [climb_outcome_of_scan, scan_outcome]
  unfold step
  cases firstVoucher p t s candidates.reverse with
  | error e => rfl
  | ok link? =>
    cases link? with
    | none => rfl
    | some c =>
      simp only [linkTo]
      cases (isSelfSigned p c).outcome with
      | error e => rfl
      | ok isRoot => cases isRoot <;> rfl

end ChainOfTrust.Chain
