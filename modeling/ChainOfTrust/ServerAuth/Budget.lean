import ChainOfTrust.ServerAuth.Fault

/-!
# Budgets

A search for a path may try so many signatures, extensions of a path and comparisons of names, all
branches together. A `Search` spends from a `Budget`, also where it fails; to overspend is fatal.

- `Search.firstSuccess`: the first of many attempts that succeeds, or the most specific fault.
-/

namespace ChainOfTrust.ServerAuth

set_option autoImplicit false

structure Budget where
  signatures : Nat := 100
  paths : Nat := 200000
  comparisons : Nat := 250000
  deriving DecidableEq

/-- A result or a fault, and the budget left. -/
abbrev Search (α : Type) := ExceptT PathFault (StateM Budget) α

namespace Search

variable {α β : Type}

/-! ## Spending -/

def spendSignature : Search Unit := do
  match (← get).signatures with
  | 0 => throw .tooManySignatures
  | n + 1 => modify fun b => { b with signatures := n }

def spendPath : Search Unit := do
  match (← get).paths with
  | 0 => throw .tooManyPaths
  | n + 1 => modify fun b => { b with paths := n }

def spendComparison : Search Unit := do
  match (← get).comparisons with
  | 0 => throw .tooManyComparisons
  | n + 1 => modify fun b => { b with comparisons := n }

/-! ## Attempts -/

/-- A check that spends nothing. -/
def check : Except PathFault α → Search α
  | .ok a => return a
  | .error fault => throw fault

/-- A fatal fault ends the attempts; `fault` is the most specific one so far. -/
def firstSuccess (attempt : β → Search α) (fault : PathFault) : List β → Search α
  | [] => throw fault
  | b :: rest =>
    tryCatch (attempt b) fun new =>
      if new.isFatal then throw new else firstSuccess attempt (fault.moreSpecific new) rest

end Search

end ChainOfTrust.ServerAuth
