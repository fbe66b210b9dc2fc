import ChainOfTrust.Hash.Blocks

/-!
# SHA-1

The hash of FIPS 180-4, section 6.1, on words of 32 bits.
-/

namespace ChainOfTrust.Hash.Sha1

set_option autoImplicit false

structure State where
  a : UInt32
  b : UInt32
  c : UInt32
  d : UInt32
  e : UInt32

def init : State := ⟨0x67452301, 0xEFCDAB89, 0x98BADCFE, 0x10325476, 0xC3D2E1F0⟩

/-- The words from `window` on, which holds the next sixteen; `count` are made after them. -/
def schedule : (count : Nat) → (window : List UInt32) → List UInt32
  | 0, w => w
  | count + 1, w =>
    let next := rotateLeft32 (w.getD 13 0 ^^^ w.getD 8 0 ^^^ w.getD 2 0 ^^^ w.getD 0 0) 1
    w.take 1 ++ schedule count (w.drop 1 ++ [next])

/-- The function and the constant of round `t`. -/
def mix (t : Nat) (b c d : UInt32) : UInt32 :=
  if t < 20 then (b &&& c ||| ~~~b &&& d) + 0x5A827999
  else if t < 40 then (b ^^^ c ^^^ d) + 0x6ED9EBA1
  else if t < 60 then (b &&& c ||| b &&& d ||| c &&& d) + 0x8F1BBCDC
  else (b ^^^ c ^^^ d) + 0xCA62C1D6

def round (s : State) (tw : Nat × UInt32) : State :=
  ⟨rotateLeft32 s.a 5 + mix tw.1 s.b s.c s.d + s.e + tw.2, s.a, rotateLeft32 s.b 30, s.c, s.d⟩

def compress (s : State) (block : Bytes) : State :=
  let w := schedule 64 (words32 block)
  let r := ((List.range 80).zip w).foldl round s
  ⟨s.a + r.a, s.b + r.b, s.c + r.c, s.d + r.d, s.e + r.e⟩

def State.octets (s : State) : Bytes :=
  [s.a, s.b, s.c, s.d, s.e].flatMap fun x => Bytes.ofNat 4 x.toNat

def digest (m : Bytes) : Bytes := (run 64 8 compress init m).octets

end ChainOfTrust.Hash.Sha1
