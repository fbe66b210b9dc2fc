import ChainOfTrust.Text.RangeTable

/-!
# White space

`isBlank` is the Unicode property `White_Space`; `words` are the maximal runs of other characters,
and `collapse` joins them with single spaces.
-/

namespace ChainOfTrust.Text

set_option autoImplicit false

def blankRanges : RangeTable :=
  [(0x09, 0x0D), (0x20, 0x20), (0x85, 0x85), (0xA0, 0xA0), (0x1680, 0x1680), (0x2000, 0x200A),
    (0x2028, 0x2029), (0x202F, 0x202F), (0x205F, 0x205F), (0x3000, 0x3000)]

def isBlank (c : Char) : Bool := blankRanges.contains c

def words (s : List Char) : List (List Char) :=
  (s.splitOnP isBlank).filter fun w => !w.isEmpty

/-- The words of a text with one space between neighbours and none at the ends. -/
def collapse (s : List Char) : List Char := [' '].intercalate (words s)

end ChainOfTrust.Text
