/-!
# Sums of multiples

`sumOfMultiples` computes `u·a + v·b` in any group that has an addition and a doubling, one bit of
both factors at a time from the highest.
-/

namespace ChainOfTrust.Crypto

set_option autoImplicit false

structure Group (P : Type) where
  zero : P
  add : P → P → P
  double : P → P

namespace Group

variable {P : Type} (g : Group P)

/-- One step for each of the low `bits` bits of `u` and `v`; `c` is `a + b`. -/
def stepBits (a b c : P) (u v : Nat) : (bits : Nat) → P → P
  | 0, acc => acc
  | bits + 1, acc =>
    let acc := g.double acc
    let acc := match u.testBit bits, v.testBit bits with
      | false, false => acc
      | true, false => g.add acc a
      | false, true => g.add acc b
      | true, true => g.add acc c
    stepBits a b c u v bits acc

/-- `u·a + v·b`, for factors of at most `bits` bits. -/
def sumOfMultiples (bits u : Nat) (a : P) (v : Nat) (b : P) : P :=
  g.stepBits a b (g.add a b) u v bits g.zero

end Group

end ChainOfTrust.Crypto
