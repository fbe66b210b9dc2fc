import ChainOfTrust.Chain.Hop
import ChainOfTrust.Chain.SelfSigned

/-!
# Climbing a chain

A certificate is trusted when it is linked to a self-signed root among the candidates.

- `scan`: the candidates in the order given, up to the first that vouches for a certificate. That
  one is committed to, and no other is tried afterwards;
- `climb`: scan after scan from issuer to issuer, until a root is reached, no candidate is left, or
  an issuer comes up again;
- `validate`: the climb from a subject, the candidates tried from last to first.

A climb ends because each issuer climbed to is a candidate that was not visited before:
`unvisited_cons_lt`.
-/

namespace ChainOfTrust.Chain

set_option autoImplicit false

/-- What a scan commits to. -/
inductive Link where
  | root (c : Certificate)
  | issuer (c : Certificate)
  deriving DecidableEq

variable (p : Provider) (t : Instant)

/-! ## One scan -/

/-- The first of the candidates that vouches for `subject`, a root if it is self-signed. The subject
itself is passed over unless it is a root. -/
def scan (subject : Certificate) : List Certificate → Logged (Option Link)
  | [] => ⟨[], .ok none⟩
  | c :: rest =>
    match validateHop p t subject c with
    | .error fault => ⟨[], .error fault⟩
    | .ok .noMatch => scan subject rest
    | .ok (.invalid reason) => (scan subject rest).after [.hopFailed subject c reason]
    | .ok .valid =>
      let self := isSelfSigned p c
      match self.outcome with
      | .error fault => ⟨self.events, .error fault⟩
      | .ok true => ⟨self.events, .ok (some (.root c))⟩
      | .ok false =>
        if c = subject then (scan subject rest).after self.events
        else ⟨self.events, .ok (some (.issuer c))⟩

theorem scan_issuer_mem {subject c : Certificate} {cs : List Certificate}
    (h : (scan p t subject cs).outcome = .ok (some (.issuer c))) : c ∈ cs := by
  induction cs with
  | nil => simp [scan] at h
  | cons d rest ih =>
    simp only [scan] at h
    split at h
    · simp at h
    · exact .tail _ (ih h)
    · exact .tail _ (ih h)
    · split at h
      · simp at h
      · simp at h
      · split at h
        · exact .tail _ (ih h)
        · simp only [Except.ok.injEq, Option.some.injEq, Link.issuer.injEq] at h
          exact h ▸ .head _

/-! ## The climb -/

/-- How many candidates have a fingerprint that is not among `visited`. -/
def unvisited (candidates : List Certificate) (visited : List Bytes) : Nat :=
  candidates.countP fun c => decide (c.fingerprint ∉ visited)

theorem unvisited_cons_le (candidates : List Certificate) (visited : List Bytes) (f : Bytes) :
    unvisited candidates (f :: visited) ≤ unvisited candidates visited :=
  List.countP_mono_left fun c _ hc => by
    simp only [List.mem_cons, not_or, decide_eq_true_eq] at hc ⊢
    exact hc.2

theorem unvisited_cons_lt {candidates : List Certificate} {visited : List Bytes} {c : Certificate}
    (hc : c ∈ candidates) (hv : c.fingerprint ∉ visited) :
    unvisited candidates (c.fingerprint :: visited) < unvisited candidates visited := by
  induction candidates with
  | nil => simp at hc
  | cons d rest ih =>
    have le := unvisited_cons_le rest visited c.fingerprint
    simp only [unvisited, List.countP_cons] at ih le ⊢
    by_cases hd : d.fingerprint = c.fingerprint
    · rw [if_neg (by simp [hd]), if_pos (by simp [hd, hv])]
      omega
    · have hr : c ∈ rest := (List.mem_cons.1 hc).resolve_left fun h => hd (h ▸ rfl)
      have lt := ih hr
      by_cases hm : d.fingerprint ∈ visited
      · rw [if_neg (by simp [hm]), if_neg (by simp [hm])]
        omega
      · rw [if_pos (by simp [hd, hm]), if_pos (by simp [hm])]
        omega

/-- The climb from `subject`, whose fingerprint is among those `visited`. -/
def climb (candidates : List Certificate) (visited : List Bytes) (subject : Certificate) :
    Logged Bool :=
  match h : scan p t subject candidates.reverse with
  | ⟨events, .error fault⟩ => ⟨events, .error fault⟩
  | ⟨events, .ok none⟩ => ⟨events, .ok false⟩
  | ⟨events, .ok (some (.root c))⟩ => ⟨events ++ [.reachedRoot c], .ok true⟩
  | ⟨events, .ok (some (.issuer c))⟩ =>
    if c.fingerprint ∈ visited then ⟨events ++ [.issuerCycle c], .ok false⟩
    else (climb candidates (c.fingerprint :: visited) c).after (events ++ [.climbed subject c])
termination_by unvisited candidates visited
decreasing_by
  have found := scan_issuer_mem p t (congrArg Logged.outcome h)
  exact unvisited_cons_lt (List.mem_reverse.1 found) ‹_›

/-- Whether `subject` is linked to a self-signed root among `candidates` at the instant `t`. -/
def validate (subject : Certificate) (candidates : List Certificate) : Logged Bool :=
  climb p t candidates [subject.fingerprint] subject

end ChainOfTrust.Chain

namespace ChainOfTrust

set_option autoImplicit false

/-- Validates chains at a fixed instant, or else at the current one. -/
structure ChainValidator where
  fixed : Option Instant := none

/-- `now` is the current instant. -/
def ChainValidator.validate (v : ChainValidator) (p : Provider) (now : Instant)
    (subject : Certificate) (candidates : List Certificate) : Logged Bool :=
  Chain.validate p (v.fixed.getD now) subject candidates

end ChainOfTrust
