import ChainOfTrust.Bytes

/-!
# Hashing in blocks

What the hash functions of the SHA family share: the message is padded with one set bit, zeros and
its length in bits to whole blocks, and a compression step takes the state through them in order.
-/

namespace ChainOfTrust.Hash

set_option autoImplicit false

/-- `m` padded to whole blocks of `size` octets; its length in bits fills the last `tail` octets. -/
def pad (size tail : Nat) (m : Bytes) : Bytes :=
  m ++ 0x80 :: List.replicate ((size - (m.length + 1 + tail) % size) % size) 0 ++
    Bytes.ofNat tail (8 * m.length)

/-- The state after the first `count` blocks of `size` octets. -/
def foldBlocks {σ : Type} (size : Nat) (step : σ → Bytes → σ) : (count : Nat) → σ → Bytes → σ
  | 0, s, _ => s
  | count + 1, s, m => foldBlocks size step count (step s (m.take size)) (m.drop size)

/-- The last state of a padded message. -/
def run {σ : Type} (size tail : Nat) (step : σ → Bytes → σ) (init : σ) (m : Bytes) : σ :=
  let padded := pad size tail m
  foldBlocks size step (padded.length / size) init padded

def words32 : Bytes → List UInt32
  | a :: b :: c :: d :: rest => UInt32.ofNat (Bytes.toNat [a, b, c, d]) :: words32 rest
  | _ => []

def words64 : Bytes → List UInt64
  | a :: b :: c :: d :: e :: f :: g :: h :: rest =>
    UInt64.ofNat (Bytes.toNat [a, b, c, d, e, f, g, h]) :: words64 rest
  | _ => []

def rotateLeft32 (x : UInt32) (n : UInt32) : UInt32 := x <<< n ||| x >>> (32 - n)

def rotateRight32 (x : UInt32) (n : UInt32) : UInt32 := x >>> n ||| x <<< (32 - n)

def rotateRight64 (x : UInt64) (n : UInt64) : UInt64 := x >>> n ||| x <<< (64 - n)

end ChainOfTrust.Hash
