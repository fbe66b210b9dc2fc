import ChainOfTrust.Anchors
import ChainOfTrust.Chain.Climb
import ChainOfTrust.Stats

/-!
# Trust adapters

A `TrustAdapter` judges the leaf of a presented chain against its anchors. It reports and counts what
it finds but never vouches for a chain: `Verdict.answer` is "not trusted" unless an error ends the
check. Adapters with one `account` count in the same statistics.
-/

namespace ChainOfTrust

set_option autoImplicit false

/-! ## Verdicts -/

inductive Verdict where
  /-- No certificate was presented. -/
  | empty
  /-- The leaf reaches a root. -/
  | validated
  | rejected
  | fatal (fault : TrustError)
  deriving DecidableEq

namespace Verdict

def ofOutcome : Except TrustError Bool → Verdict
  | .ok true => validated
  | .ok false => rejected
  | .error fault => fatal fault

/-- The counters that a check with this verdict raises, in order. -/
def counters : Verdict → List Counter
  | empty => [.checks, .empty]
  | validated => [.checks, .validated]
  | rejected => [.checks, .rejected]
  | fatal _ => [.checks, .fatal]

def answer : Verdict → Except TrustError Bool
  | fatal fault => .error fault
  | _ => .ok false

end Verdict

/-- The statistics after a check with this verdict. -/
def TrustStats.record (s : TrustStats) (v : Verdict) : TrustStats := v.counters.foldl count s

/-! ## Adapters -/

/-- The authentication type where none is known. -/
def unknownAuthType : String := "UNKNOWN"

structure TrustAdapter where
  anchors : TrustAnchors
  validator : ChainValidator := {}
  /-- Which statistics it counts in. -/
  account : Nat

namespace TrustAdapter

def withValidator (a : TrustAdapter) (v : ChainValidator) : TrustAdapter := { a with validator := v }

variable (p : Provider) (now : Instant) (a : TrustAdapter)

/-- How the climb from a leaf to the anchors goes. -/
def climb (leaf : Certificate) : Logged Bool :=
  a.validator.validate p now leaf a.anchors.certificates

/-- The verdict on a chain and what is reported. Only the first certificate counts. -/
def judge (chain : List Certificate) (authType : String) : List Event × Verdict :=
  match chain with
  | [] => ([.emptyChain authType], .empty)
  | leaf :: _ =>
    let r := a.climb p now leaf
    match r.outcome with
    | .ok true => (r.events ++ [.trusted leaf authType], .validated)
    | .ok false => (r.events ++ [.notTrusted leaf authType], .rejected)
    | .error fault => (r.events ++ [.aborted leaf fault], .fatal fault)

end TrustAdapter

end ChainOfTrust
