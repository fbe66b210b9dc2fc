import ChainOfTrust.Crypto.Modular
import ChainOfTrust.Crypto.Multiple
import ChainOfTrust.Hash.Sha512

/-!
# Ed25519

Signatures over the twisted Edwards curve `-x² + y² = 1 + d·x²·y²` modulo `2^255 - 19`.

- `Point`: a point in extended coordinates, `x·y = z·t`;
- `decodePoint?`: a point from its second coordinate, which need not be reduced, and a sign;
- `verifies`: the commitment is recomputed and compared as octets.
-/

namespace ChainOfTrust.Crypto.Ed25519

set_option autoImplicit false

def prime : Nat := Nat.pow 2 255 - 19

def order : Nat := Nat.pow 2 252 + 27742317777372353535851937790883648493

/-- `-121665 / 121666`. -/
def d : Nat := 0x52036CEE2B6FFE738CC740797779E89800700A4D4141D8AB75EB4DCA135978A3

/-- A square root of `-1`. -/
def sqrtMinusOne : Nat := 0x2B8324804FC1DF0B2B4D00993DFBD7A72F431806AD2FE478C4EE1B274A0EA0B0

/-! ## Points -/

structure Point where
  x : Nat
  y : Nat
  z : Nat
  t : Nat

def ofAffine (x y : Nat) : Point := ⟨x, y, 1, x * y % prime⟩

def zero : Point := ofAffine 0 1

def generator : Point :=
  ofAffine 0x216936D3CD6E53FEC0A4E231FDD6DC5C692CC7609525A7B2C9562D608F25D51A
    0x6666666666666666666666666666666666666666666666666666666666666658

def add (p q : Point) : Point :=
  let a := subMod p.y p.x prime * subMod q.y q.x prime % prime
  let b := (p.y + p.x) * (q.y + q.x) % prime
  let c := 2 * d * p.t % prime * q.t % prime
  let e := 2 * p.z * q.z % prime
  let f := subMod b a prime
  let g := subMod e c prime
  let h := (e + c) % prime
  let i := (b + a) % prime
  ⟨f * g % prime, h * i % prime, g * h % prime, f * i % prime⟩

def negate (p : Point) : Point :=
  { p with x := subMod 0 p.x prime, t := subMod 0 p.t prime }

def group : Group Point := ⟨zero, add, fun p => add p p⟩

/-! ## Octets -/

/-- The number of octets written least significant first. -/
def littleEndian (s : Bytes) : Nat := Bytes.toNat s.reverse

def encodePoint (p : Point) : Bytes :=
  let i := invMod p.z prime
  let x := p.x * i % prime
  let y := p.y * i % prime
  (Bytes.ofNat 32 (y + x % 2 * Nat.pow 2 255)).reverse

/-- A square root of `u / v`. -/
def sqrtRatio? (u v : Nat) : Option Nat :=
  let v3 := v * v % prime * v % prime
  let x := u * v3 % prime * powMod (u * v3 % prime * (v3 * v % prime) % prime) ((prime - 5) / 8) prime
    % prime
  let vxx := v * (x * x % prime) % prime
  if vxx = u then some x
  else if vxx = subMod 0 u prime then some (x * sqrtMinusOne % prime)
  else none

def decodePoint? (s : Bytes) : Option Point :=
  if s.length ≠ 32 then none
  else do
    let n := littleEndian s
    let y := n % Nat.pow 2 255 % prime
    let yy := y * y % prime
    let x ← sqrtRatio? (subMod yy 1 prime) ((d * yy + 1) % prime)
    some (ofAffine (if x % 2 = n / Nat.pow 2 255 then x else subMod 0 x prime) y)

/-! ## Signatures -/

def verifies (key message signature : Bytes) : Bool :=
  let commitment := signature.take 32
  let s := littleEndian (signature.drop 32)
  match decodePoint? key with
  | none => false
  | some a =>
    let k := littleEndian (Hash.Sha512.digest (commitment ++ key ++ message)) % order
    signature.length == 64 && s < order &&
      encodePoint (group.sumOfMultiples 253 s generator k (negate a)) == commitment

end ChainOfTrust.Crypto.Ed25519
