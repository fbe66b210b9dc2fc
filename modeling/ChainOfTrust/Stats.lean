/-!
# Statistics

Counters of trust checks, 64 bits wide and wrapping.

- `TrustStats.read`, `TrustStats.count`: one counter, read or raised by one. Checks and snapshots are
  made of such steps and of nothing else;
- `TrustStats.snapshot`: all counters, each read once;
- `TrustStats.validationRate`: the share of the judged chains that reached a root, in per cent.
-/

namespace ChainOfTrust

set_option autoImplicit false

inductive Counter where
  /-- Checks begun. -/
  | checks
  /-- Chains that reached a self-signed root. -/
  | validated
  | rejected
  /-- Checks of no certificate at all. -/
  | empty
  /-- Checks that an error ended. -/
  | fatal
  deriving DecidableEq

namespace Counter

def name : Counter → String
  | checks => "checks"
  | validated => "validated"
  | rejected => "rejected"
  | empty => "empty"
  | fatal => "fatal"

/-- The counters in the order in which a snapshot reads them. -/
def all : List Counter := [checks, validated, rejected, empty, fatal]

end Counter

structure TrustStats where
  checks : UInt64 := 0
  validated : UInt64 := 0
  rejected : UInt64 := 0
  empty : UInt64 := 0
  fatal : UInt64 := 0
  deriving DecidableEq

namespace TrustStats

/-! ## Steps -/

def read (s : TrustStats) : Counter → UInt64
  | .checks => s.checks
  | .validated => s.validated
  | .rejected => s.rejected
  | .empty => s.empty
  | .fatal => s.fatal

def count (s : TrustStats) : Counter → TrustStats
  | .checks => { s with checks := s.checks + 1 }
  | .validated => { s with validated := s.validated + 1 }
  | .rejected => { s with rejected := s.rejected + 1 }
  | .empty => { s with empty := s.empty + 1 }
  | .fatal => { s with fatal := s.fatal + 1 }

theorem read_count (s : TrustStats) (c d : Counter) :
    (s.count c).read d = if c = d then s.read d + 1 else s.read d := by
  cases c <;> cases d <;> rfl

def snapshot (s : TrustStats) : List (Counter × UInt64) := Counter.all.map fun c => (c, s.read c)

/-! ## Rate -/

/-- Each counter is rounded to a double before they are added; no judged chain makes the rate 0. -/
def validationRate (s : TrustStats) : Float :=
  let validated := s.validated.toFloat
  let total := validated + s.rejected.toFloat
  if total > 0 then validated / total * 100 else 0

end TrustStats

end ChainOfTrust
