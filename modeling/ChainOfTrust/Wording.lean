import ChainOfTrust.Bytes

/-!
# Wording

What decoders outside of this library say of what they refuse. A message about something that such a
decoder refused ends in the decoder's own words.
-/

namespace ChainOfTrust

set_option autoImplicit false

/-- The words of the decoders, by what they refuse. -/
structure Wording where
  /-- Octets that are not a certificate. -/
  certificate : Bytes → String := fun _ => ""
  /-- Octets that do not begin with the header of a sequence. -/
  header : Bytes → String := fun _ => ""
  /-- RSASSA-PSS parameters whose hash cannot be read. -/
  pssHash : Bytes → String := fun _ => ""
  /-- A document that is not one of a configuration. -/
  document : String → String := fun _ => ""
  /-- A text that is not base64. -/
  base64 : String → String := fun _ => ""
  /-- Octets that are not UTF-8. -/
  utf8 : Bytes → String := fun _ => ""

/-- A message and the words that say why, if there are any. -/
def becauseOf (message words : String) : String :=
  if words.isEmpty then message else message ++ ": " ++ words

theorem becauseOf_of_ne {message words : String} (h : words ≠ "") :
    becauseOf message words = message ++ ": " ++ words :=
  if_neg (mt String.isEmpty_iff.mp h)

end ChainOfTrust
