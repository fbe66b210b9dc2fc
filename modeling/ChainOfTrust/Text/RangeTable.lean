/-!
# Sets of characters as ranges

A property of characters is kept as the ordered list of the code point ranges that have it.
-/

namespace ChainOfTrust.Text

set_option autoImplicit false

/-- Closed ranges of code points. -/
abbrev RangeTable := List (Nat × Nat)

def RangeTable.contains (t : RangeTable) (c : Char) : Bool :=
  t.any fun r => r.1 ≤ c.toNat && c.toNat ≤ r.2

end ChainOfTrust.Text
