import ChainOfTrust.Bytes

/-!
# Base64

RFC 4648, section 4, in its one canonical form: groups of four characters, the last one padded, and
no bits set that the octets do not fill.
-/

namespace ChainOfTrust.Base64

set_option autoImplicit false

/-! ## Digits -/

def alphabet : List Char :=
  "ABCDEFGHIJKLMNOPQRSTUVWXYZabcdefghijklmnopqrstuvwxyz0123456789+/".toList

def encodeDigit (n : Nat) : Char := alphabet.getD n 'A'

def decodeDigit? (c : Char) : Option Nat :=
  let n := c.toNat
  if 0x41 ≤ n ∧ n ≤ 0x5A then some (n - 0x41)
  else if 0x61 ≤ n ∧ n ≤ 0x7A then some (n - 0x61 + 26)
  else if 0x30 ≤ n ∧ n ≤ 0x39 then some (n - 0x30 + 52)
  else if c = '+' then some 62
  else if c = '/' then some 63
  else none

/-! ## Groups -/

def encode : Bytes → List Char
  | a :: b :: c :: rest =>
    let n := Bytes.toNat [a, b, c]
    encodeDigit (n / 262144) :: encodeDigit (n / 4096 % 64) :: encodeDigit (n / 64 % 64) ::
      encodeDigit (n % 64) :: encode rest
  | [a, b] =>
    let n := Bytes.toNat [a, b]
    [encodeDigit (n / 1024), encodeDigit (n / 16 % 64), encodeDigit (n % 16 * 4), '=']
  | [a] =>
    let n := Bytes.toNat [a]
    [encodeDigit (n / 4), encodeDigit (n % 4 * 16), '=', '=']
  | [] => []

/-- The octet of two digits before `==`. -/
def decodeOne? (a b : Char) : Option Bytes := do
  let n := (← decodeDigit? a) * 64 + (← decodeDigit? b)
  if n % 16 = 0 then some (Bytes.ofNat 1 (n / 16)) else none

/-- The octets of three digits before `=`. -/
def decodeTwo? (a b c : Char) : Option Bytes := do
  let n := ((← decodeDigit? a) * 64 + (← decodeDigit? b)) * 64 + (← decodeDigit? c)
  if n % 4 = 0 then some (Bytes.ofNat 2 (n / 4)) else none

def decodeThree? (a b c d : Char) : Option Bytes := do
  let n := (((← decodeDigit? a) * 64 + (← decodeDigit? b)) * 64 + (← decodeDigit? c)) * 64 +
    (← decodeDigit? d)
  some (Bytes.ofNat 3 n)

def decode? : List Char → Option Bytes
  | [] => some []
  | [a, b, '=', '='] => decodeOne? a b
  | [a, b, c, '='] => decodeTwo? a b c
  | a :: b :: c :: d :: rest => do
    let group ← decodeThree? a b c d
    let others ← decode? rest
    some (group ++ others)
  | _ => none

end ChainOfTrust.Base64
