import ChainOfTrust.Text.Blank
import ChainOfTrust.Text.CaseTable

/-!
# Lower case and matching form

- `lower`: the full lower-case mapping of one character. It is a single character but for the
  dotted capital I;
- `lowerCase`: a text in lower case. A capital sigma is final, `ς`, where a word ends: a cased
  letter stands before it and none after it, case-ignorable characters left out of account;
- `normalize`: the form in which two texts are compared, white space collapsed and in lower case.
-/

namespace ChainOfTrust.Text

set_option autoImplicit false

/-! ## One character -/

def LowerRule.image? (r : LowerRule) (n : Nat) : Option Nat :=
  if r.first ≤ n && n ≤ r.last && (n - r.first) % r.stride == 0 then some (r.target + (n - r.first))
  else none

def lower (c : Char) : List Char :=
  if c.toNat < 0x80 then [c.toLower]
  else if c.toNat = 0x130 then ['i', Char.ofNat 0x307]
  else match lowerRules.findSome? (·.image? c.toNat) with
    | some n => [Char.ofNat n]
    | none => [c]

/-! ## A text -/

def isCased (c : Char) : Bool := casedRanges.contains c

def isCaseIgnorable (c : Char) : Bool := caseIgnorableRanges.contains c

/-- The first character that is not case-ignorable is a cased letter. -/
def leadsToCased (s : List Char) : Bool :=
  match s.dropWhile isCaseIgnorable with
  | [] => false
  | c :: _ => isCased c

/-- `before` holds the characters already passed, the last one first. -/
def lowerCaseAfter (before : List Char) : List Char → List Char
  | [] => []
  | c :: after =>
    let here :=
      if c = 'Σ' then [if leadsToCased before && !leadsToCased after then 'ς' else 'σ'] else lower c
    here ++ lowerCaseAfter (c :: before) after

def lowerCase (s : List Char) : List Char := lowerCaseAfter [] s

def normalize (s : String) : String := String.ofList (lowerCase (collapse s.toList))

end ChainOfTrust.Text
