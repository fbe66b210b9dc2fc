/-!
# Arithmetic modulo a number

Powers, inverses modulo a prime, and differences that stay in the natural numbers.
-/

namespace ChainOfTrust.Crypto

set_option autoImplicit false

/-- `b ^ e % m`, by squaring. -/
def powMod (b e m : Nat) : Nat :=
  if h : e = 0 then 1 % m
  else
    let half := powMod (b * b % m) (e / 2) m
    if e % 2 = 0 then half else b * half % m
termination_by e
decreasing_by omega

/-- The inverse of `a` modulo a prime, by Fermat's theorem. -/
def invMod (a p : Nat) : Nat := powMod a (p - 2) p

/-- `a - b` modulo `m`, for numbers below `m`. -/
def subMod (a b m : Nat) : Nat := (a + m - b) % m

end ChainOfTrust.Crypto
