import ChainOfTrust.Wording

/-!
# What can be wrong with a PEM block

The causes for which a block between `BEGIN` and `END` lines is refused, and their wording.
-/

namespace ChainOfTrust

set_option autoImplicit false

inductive PemFault where
  /-- No block at all. -/
  | malformedFraming
  | missingBeginLabel
  | missingEndLabel
  | mismatchedLabels (opening closing : String)
  /-- The data is not base64. -/
  | invalidData (text : String)
  | notUtf8 (octets : Bytes)
  | invalidHeader (line : String)
  | missingData
  deriving DecidableEq

def PemFault.message (fault : PemFault) (w : Wording := {}) : String :=
  match fault with
  | .malformedFraming => "malformedframing"
  | .missingBeginLabel => "missing BEGIN tag"
  | .missingEndLabel => "missing END tag"
  | .mismatchedLabels a b => "mismatching BEGIN (\"" ++ a ++ "\") and END (\"" ++ b ++ "\") tags"
  | .invalidData text => becauseOf "invalid data" (w.base64 text)
  | .notUtf8 octets => becauseOf "invalid utf-8 value" (w.utf8 octets)
  | .invalidHeader line => "invalid header: " ++ line
  | .missingData => "missing data"

end ChainOfTrust
