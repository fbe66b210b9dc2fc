import ChainOfTrust.Crypto.Modular
import ChainOfTrust.Der.Value
import ChainOfTrust.Hash.Algorithm

/-!
# RSA signatures

- `PublicKey.decode?`: a key with an odd modulus of 2048 to 8192 bits, counted in whole octets at
  the lower end, and an odd exponent from 3 to 2^33 - 1;
- `verifiesPkcs1`: RSASSA-PKCS1-v1_5, by comparison with the one encoding there is;
- `verifiesPss`: RSASSA-PSS with MGF1 over the same hash and a salt as long as the digest.
-/

namespace ChainOfTrust.Crypto.Rsa

set_option autoImplicit false

open Der (Element)

/-! ## Keys -/

structure PublicKey where
  modulus : Nat
  exponent : Nat

namespace PublicKey

def bits (k : PublicKey) : Nat := k.modulus.log2 + 1

/-- The octets of the modulus, and of every signature. -/
def size (k : PublicKey) : Nat := (k.bits + 7) / 8

def isUsable (k : PublicKey) : Bool :=
  k.modulus % 2 = 1 ∧ 2048 ≤ 8 * k.size ∧ k.bits ≤ 8192 ∧
    k.exponent % 2 = 1 ∧ 3 ≤ k.exponent ∧ k.exponent < Nat.pow 2 33

def decode? (s : Bytes) : Option PublicKey := do
  match ← (← Element.only? s).sequence? with
  | [n, e] =>
    let key : PublicKey := ⟨← n.positive?, ← e.positive?⟩
    if key.isUsable then some key else none
  | _ => none

/-- The encoded message that a signature opens to; `k.size` octets. -/
def open? (k : PublicKey) (signature : Bytes) : Option Bytes :=
  let s := Bytes.toNat signature
  if signature.length = k.size ∧ s < k.modulus then
    some (Bytes.ofNat k.size (powMod s k.exponent k.modulus))
  else none

end PublicKey

/-! ## PKCS #1 v1.5 -/

/-- The start of a `DigestInfo` that ends with the digest. -/
def digestInfo : HashAlgorithm → Bytes
  | .sha1 => [0x30, 0x21, 0x30, 0x09, 0x06, 0x05, 0x2B, 0x0E, 0x03, 0x02, 0x1A, 0x05, 0x00, 0x04, 0x14]
  | .sha256 => sha2Info 0x31 0x01 0x20
  | .sha384 => sha2Info 0x41 0x02 0x30
  | .sha512 => sha2Info 0x51 0x03 0x40
where
  sha2Info (length arc size : UInt8) : Bytes :=
    [0x30, length, 0x30, 0x0D, 0x06, 0x09, 0x60, 0x86, 0x48, 0x01, 0x65, 0x03, 0x04, 0x02, arc, 0x05,
      0x00, 0x04, size]

def pkcs1Encoding (hash : HashAlgorithm) (size : Nat) (message : Bytes) : Bytes :=
  let info := digestInfo hash ++ hash.digest message
  0x00 :: 0x01 :: List.replicate (size - (info.length + 3)) 0xFF ++ 0x00 :: info

def verifiesPkcs1 (hash : HashAlgorithm) (key message signature : Bytes) : Bool :=
  match PublicKey.decode? key with
  | none => false
  | some k => k.open? signature == some (pkcs1Encoding hash k.size message)

/-! ## PSS -/

/-- `length` octets made from `seed`. -/
def mgf1 (hash : HashAlgorithm) (seed : Bytes) (length : Nat) : Bytes :=
  let blocks := (length + hash.size - 1) / hash.size
  ((List.range blocks).flatMap fun i => hash.digest (seed ++ Bytes.ofNat 4 i)).take length

/-- An encoded message of `bits` bits is one of the digest `m`. -/
def isPssEncoding (hash : HashAlgorithm) (bits : Nat) (m encoded : Bytes) : Bool :=
  let size := (bits + 7) / 8
  let dbSize := size - (hash.size + 1)
  let masked := encoded.take dbSize
  let h := (encoded.drop dbSize).take hash.size
  let mask := mgf1 hash h dbSize
  let spare := 8 * size - bits
  let db := (masked.zipWith (· ^^^ ·) mask).mapIdx fun i x =>
    if i = 0 then x &&& UInt8.ofNat (0xFF >>> spare) else x
  let salt := db.drop (dbSize - hash.size)
  encoded.length == size && 2 * hash.size + 2 ≤ size && encoded.getLast? == some 0xBC &&
    (masked.headD 0).toNat < Nat.pow 2 (8 - spare) &&
    db.take (dbSize - hash.size) == List.replicate (dbSize - hash.size - 1) 0 ++ [0x01] &&
    h == hash.digest (List.replicate 8 0 ++ m ++ salt)

def verifiesPss (hash : HashAlgorithm) (key message signature : Bytes) : Bool :=
  match PublicKey.decode? key with
  | none => false
  | some k =>
    match k.open? signature with
    | none => false
    | some encoded =>
      let bits := k.bits - 1
      let spare := encoded.length - (bits + 7) / 8
      encoded.take spare == List.replicate spare 0 &&
        isPssEncoding hash bits (hash.digest message) (encoded.drop spare)

end ChainOfTrust.Crypto.Rsa
