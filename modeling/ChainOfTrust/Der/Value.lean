import ChainOfTrust.Der.Element
import ChainOfTrust.Der.Oid

/-!
# Values of the primitive types

Readers from an element to the value it holds: integers, truth values, bit strings, identifiers.
-/

namespace ChainOfTrust.Der

set_option autoImplicit false

/-- Two's complement with no superfluous leading octet. -/
def isMinimalInteger : Bytes → Bool
  | [] => false
  | [_] => true
  | a :: b :: _ => !(a == 0 && b < 0x80) && !(a == 0xFF && 0x80 ≤ b)

namespace Element

def integer? (e : Element) : Option Bytes := do
  let c ← e.expect? Tag.integer
  if isMinimalInteger c then some c else none

/-- A positive number. -/
def positive? (e : Element) : Option Nat := do
  let c ← e.integer?
  let n := Bytes.toNat c
  if c.headD 0 < 0x80 ∧ 0 < n then some n else none

def boolean? (e : Element) : Option Bool := do
  match ← e.expect? Tag.boolean with
  | [0x00] => some false
  | [0xFF] => some true
  | _ => none

def oid? (e : Element) : Option Oid := e.expect? Tag.oid >>= Oid.ofContent?

end Element

/-! ## Bit strings -/

/-- Octets of which the last has up to seven bits that do not count. -/
structure BitString where
  unused : UInt8
  octets : Bytes
  deriving DecidableEq

def BitString.ofContent? : Bytes → Option BitString
  | [] => none
  | u :: octets => if u ≤ 7 ∧ (u = 0 ∨ octets ≠ []) then some ⟨u, octets⟩ else none

def Element.bitString? (e : Element) : Option BitString :=
  e.expect? Tag.bitString >>= BitString.ofContent?

end ChainOfTrust.Der
