import ChainOfTrust.Bytes

/-!
# Object identifiers

An identifier is kept as its content octets, and two identifiers are equal when these are. Each arc
after the first two is a run of seven-bit digits that ends with an octet below `80`. An arc has at
most five octets, the fifth below `10`, and its value is taken modulo 2^32. Padding digits are
accepted, so identifiers that differ can have one text.
-/

namespace ChainOfTrust

set_option autoImplicit false

structure Oid where
  content : Bytes
  deriving DecidableEq

namespace Oid

/-! ## Reading -/

/-- The arcs in `s`, after `seen` octets of an arc whose digits so far make `value`. -/
def arcsFrom? (value seen : Nat) : Bytes → Option (List Nat)
  | [] => if seen = 0 then some [] else none
  | b :: rest =>
    if 4 ≤ seen && 0x10 ≤ b then none
    else
      let value := (value * 128 + b.toNat % 128) % 2 ^ 32
      if 0x80 ≤ b then arcsFrom? value (seen + 1) rest
      else (arcsFrom? 0 0 rest).map (value :: ·)

/-- All arcs of an identifier's content, the first octet giving two of them. -/
def arcs? (content : Bytes) : Option (List Nat) :=
  match content with
  | [] => none
  | b :: rest =>
    if b < 120 then (arcsFrom? 0 0 rest).map fun as => b.toNat / 40 :: b.toNat % 40 :: as else none

def ofContent? (content : Bytes) : Option Oid :=
  if 3 ≤ content.length ∧ content.length ≤ 39 ∧ (arcs? content).isSome then some ⟨content⟩ else none

/-! ## Writing -/

def arcs (o : Oid) : List Nat := (arcs? o.content).getD []

/-- The arcs in decimal with points between them. -/
def text (o : Oid) : String := ".".intercalate (o.arcs.map toString)

def arcTail : (fuel : Nat) → Nat → Bytes
  | 0, _ => []
  | fuel + 1, n => if n = 0 then [] else arcTail fuel (n / 128) ++ [UInt8.ofNat (0x80 + n % 128)]

def encodeArc (n : Nat) : Bytes := arcTail 5 (n / 128) ++ [UInt8.ofNat (n % 128)]

/-- The identifier with these arcs. -/
def ofArcs : List Nat → Oid
  | a :: b :: rest => ⟨UInt8.ofNat (40 * a + b) :: rest.flatMap encodeArc⟩
  | _ => ⟨[]⟩

end Oid

end ChainOfTrust
