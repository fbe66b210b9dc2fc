/-!
# Bytes

Octet strings as lists, so that everything read from them is recursion on data.

- `hex`: two lower-case digits an octet;
- `toNat`, `ofNat`: big-endian numbers, the second at a fixed width;
- `utf8?`: the text of an octet string, if it is well-formed UTF-8.
-/

namespace ChainOfTrust

set_option autoImplicit false

abbrev Bytes := List UInt8

namespace Bytes

/-! ## Hexadecimal text -/

def hexDigit (n : Nat) : Char := Nat.digitChar (n % 16)

def hex (b : Bytes) : String :=
  String.ofList (b.flatMap fun x => [hexDigit (x.toNat / 16), hexDigit x.toNat])

/-! ## Big-endian numbers -/

def toNat (b : Bytes) : Nat := b.foldl (fun n x => n * 256 + x.toNat) 0

/-- The `width` low octets of `n`, most significant first. -/
def ofNat : (width : Nat) → (n : Nat) → Bytes
  | 0, _ => []
  | width + 1, n => ofNat width (n / 256) ++ [UInt8.ofNat n]

@[simp] theorem length_ofNat (width n : Nat) : (ofNat width n).length = width := by
  induction width generalizing n with
  | zero => rfl
  | succ w ih => simp [ofNat, ih]

/-! ## Text -/

/-- The ASCII octets of a text given as characters; for texts of the standards, which are ASCII. -/
def ofAscii (s : String) : Bytes := s.toList.map fun c => UInt8.ofNat c.toNat

def utf8? (b : Bytes) : Option String := String.fromUTF8? b.toByteArray

def ofUtf8 (s : String) : Bytes := s.toUTF8.toList

/-- The octets as characters, if all are below `80`. -/
def ascii? (b : Bytes) : Option String :=
  if b.all (· < 0x80) then some (String.ofList (b.map fun x => Char.ofNat x.toNat)) else none

end Bytes

end ChainOfTrust
