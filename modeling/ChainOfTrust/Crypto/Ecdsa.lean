import ChainOfTrust.Crypto.Modular
import ChainOfTrust.Crypto.Multiple
import ChainOfTrust.Der.Value
import ChainOfTrust.Signature.Scheme

/-!
# ECDSA

Signatures over the curves P-256 and P-384, `y² = x³ - 3x + b` modulo a prime.

- `Curve`, `Point`: a curve, and a point of it in Jacobian coordinates (zero when `z = 0`);
- `decodePoint?`: an uncompressed point that lies on the curve;
- `isGuessable`: a public key whose private number is found by counting up;
- `verifies`: a signature that is a DER sequence of two numbers below the group's order.
-/

namespace ChainOfTrust.Crypto.Ecdsa

set_option autoImplicit false

open Der (Element)

/-! ## Curves -/

structure Point where
  x : Nat
  y : Nat
  z : Nat

structure Curve where
  /-- The octets of a coordinate. -/
  size : Nat
  prime : Nat
  b : Nat
  order : Nat
  generator : Point

def p256 : Curve where
  size := 32
  prime := 0xFFFFFFFF00000001000000000000000000000000FFFFFFFFFFFFFFFFFFFFFFFF
  b := 0x5AC635D8AA3A93E7B3EBBD55769886BC651D06B0CC53B0F63BCE3C3E27D2604B
  order := 0xFFFFFFFF00000000FFFFFFFFFFFFFFFFBCE6FAADA7179E84F3B9CAC2FC632551
  generator := {
    x := 0x6B17D1F2E12C4247F8BCE6E563A440F277037D812DEB33A0F4A13945D898C296
    y := 0x4FE342E2FE1A7F9B8EE7EB4A7C0F9E162BCE33576B315ECECBB6406837BF51F5
    z := 1 }

def p384 : Curve where
  size := 48
  prime := Nat.pow 2 384 - Nat.pow 2 128 - Nat.pow 2 96 + Nat.pow 2 32 - 1
  b := 0xB3312FA7E23EE7E4988E056BE3F82D19181D9C6EFE8141120314088F5013875AC656398D8A2ED19D2A85C8EDD3EC2AEF
  order := 0xFFFFFFFFFFFFFFFFFFFFFFFFFFFFFFFFFFFFFFFFFFFFFFFFC7634D81F4372DDF581A0DB248B0A77AECEC196ACCC52973
  generator := {
    x := 0xAA87CA22BE8B05378EB1C71EF320AD746E1D3B628BA79B9859F741E082542A385502F25DBF55296C3A545E3872760AB7
    y := 0x3617DE4A96262C6F5D9E98BF9292DC29F8F41DBD289A147CE9DA3113B5F0B8C00A60B1CE1D7E819D7A431D7C90EA0E5F
    z := 1 }

def curve : CurveName → Curve
  | .p256 => p256
  | .p384 => p384

/-! ## Points -/

namespace Curve

variable (c : Curve)

def zero : Point := ⟨1, 1, 0⟩

def double (q : Point) : Point :=
  let p := c.prime
  if q.z = 0 ∨ q.y = 0 then zero
  else
    let yy := q.y * q.y % p
    let s := 4 * q.x * yy % p
    let zz := q.z * q.z % p
    let m := 3 * (subMod q.x zz p) * ((q.x + zz) % p) % p
    let x := subMod (m * m % p) (2 * s % p) p
    ⟨x, subMod (m * subMod s x p % p) (8 * yy * yy % p) p, 2 * q.y * q.z % p⟩

def add (q r : Point) : Point :=
  let p := c.prime
  if q.z = 0 then r
  else if r.z = 0 then q
  else
    let zz := q.z * q.z % p
    let ww := r.z * r.z % p
    let u := q.x * ww % p
    let s := q.y * (ww * r.z % p) % p
    let h := subMod (r.x * zz % p) u p
    let t := subMod (r.y * (zz * q.z % p) % p) s p
    if h = 0 then (if t = 0 then c.double q else zero)
    else
      let hh := h * h % p
      let hhh := h * hh % p
      let v := u * hh % p
      let x := subMod (subMod (t * t % p) hhh p) (2 * v % p) p
      ⟨x, subMod (t * subMod v x p % p) (s * hhh % p) p, q.z * r.z % p * h % p⟩

def group : Group Point := ⟨zero, c.add, c.double⟩

/-- The first coordinate of a point that is not zero. -/
def affineX (q : Point) : Nat :=
  let i := invMod q.z c.prime
  q.x * (i * i % c.prime) % c.prime

def contains (x y : Nat) : Bool :=
  let p := c.prime
  x < p && y < p && y * y % p == (x * x * x + (p - 3) * x + c.b) % p

def decodePoint? : Bytes → Option Point
  | [] => none
  | form :: coordinates =>
    let x := Bytes.toNat (coordinates.take c.size)
    let y := Bytes.toNat (coordinates.drop c.size)
    if form = 0x04 ∧ coordinates.length = 2 * c.size ∧ c.contains x y then some ⟨x, y, 1⟩ else none

end Curve

/-! ## Guessable keys -/

namespace Curve

variable (c : Curve)

/-- Two points that are not zero are one, whatever their coordinates are multiplied by. -/
def samePoint (q r : Point) : Bool :=
  let p := c.prime
  let zz := q.z * q.z % p
  let ww := r.z * r.z % p
  q.x * ww % p == r.x * zz % p && q.y * (ww * r.z % p) % p == r.y * (zz * q.z % p) % p

/-- One of the `n` points after `m` is `q`, each the sum of the one before and the generator. -/
def isWithin (q : Point) : (n : Nat) → (m : Point) → Bool
  | 0, _ => false
  | n + 1, m =>
    let next := c.add m c.generator
    c.samePoint next q || isWithin q n next

end Curve

/-- The largest private number that is looked for. -/
def maxGuess : Nat := 255

/-- The key is one of the first multiples of the generator, so that its private number fits one octet
and anyone may sign with it. -/
def isGuessable (name : CurveName) (key : Bytes) : Bool :=
  let c := curve name
  match c.decodePoint? key with
  | some q => c.isWithin q maxGuess Curve.zero
  | none => false

/-! ## Signatures -/

def decodeSignature? (c : Curve) (s : Bytes) : Option (Nat × Nat) := do
  match ← (← Element.only? s).sequence? with
  | [r, s] =>
    let r ← r.positive?
    let s ← s.positive?
    if r < c.order ∧ s < c.order then some (r, s) else none
  | _ => none

def verifies (name : CurveName) (hash : HashAlgorithm) (key message signature : Bytes) : Bool :=
  let c := curve name
  match c.decodePoint? key, decodeSignature? c signature with
  | some q, some (r, s) =>
    let e := Bytes.toNat ((hash.digest message).take c.size)
    let w := invMod s c.order
    let sum := c.group.sumOfMultiples (8 * c.size) (e * w % c.order) c.generator (r * w % c.order) q
    sum.z != 0 && c.affineX sum % c.order == r
  | _, _ => false

end ChainOfTrust.Crypto.Ecdsa
