import ChainOfTrust.Text.PrintTable

/-!
# Quoted text

`quote` writes a text between double quotes for a human reader: named escapes for the common
controls, and `\u` with the code point in braces for whatever would not show by itself.
-/

namespace ChainOfTrust.Text

set_option autoImplicit false

/-- Shows as a character of its own. -/
def isShown (c : Char) : Bool :=
  if c.toNat < 0x300 then !hiddenRanges.contains c
  else !hiddenRanges.contains c && !joiningRanges.contains c

def quoteChar (c : Char) : List Char :=
  if c = '\x00' then ['\\', '0']
  else if c = '\t' then ['\\', 't']
  else if c = '\r' then ['\\', 'r']
  else if c = '\n' then ['\\', 'n']
  else if c = '\\' then ['\\', '\\']
  else if c = '"' then ['\\', '"']
  else if isShown c then [c]
  else ['\\', 'u', '\x7b'] ++ Nat.toDigits 16 c.toNat ++ ['\x7d']

def quote (s : String) : String := String.ofList ('"' :: s.toList.flatMap quoteChar ++ ['"'])

end ChainOfTrust.Text
