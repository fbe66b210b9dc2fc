import ChainOfTrust.Bytes

/-!
# DER elements

An element is a one-octet tag and a content. Its length is definite, written with as few octets as
possible (at most four after the first) and at most `maxLength`.

- `Element.read?`: the first element of an octet string and what follows it;
- `Element.only?`, `Element.all?`: an octet string that is one element, or a run of elements;
- `Element.encode`: the octets of an element.
-/

namespace ChainOfTrust.Der

set_option autoImplicit false

/-! ## Tags -/

namespace Tag

def boolean : UInt8 := 0x01
def integer : UInt8 := 0x02
def bitString : UInt8 := 0x03
def octetString : UInt8 := 0x04
def oid : UInt8 := 0x06
def utf8String : UInt8 := 0x0C
def printableString : UInt8 := 0x13
def teletexString : UInt8 := 0x14
def ia5String : UInt8 := 0x16
def utcTime : UInt8 := 0x17
def generalizedTime : UInt8 := 0x18
def sequence : UInt8 := 0x30
def set : UInt8 := 0x31

def isContextSpecific (t : UInt8) : Bool := t &&& 0xC0 == 0x80

def isConstructed (t : UInt8) : Bool := t &&& 0x20 == 0x20

def number (t : UInt8) : Nat := (t &&& 0x1F).toNat

/-- The universal tags in use: no reserved number, and constructed for sequences and sets only. -/
def universal : List UInt8 :=
  [0x01, 0x02, 0x03, 0x04, 0x05, 0x06, 0x09, 0x0A, 0x0C, 0x12, 0x13, 0x14, 0x15, 0x16, 0x17, 0x18,
    0x1A, 0x1E, 0x30, 0x31]

/-- The tag fits one octet and, if universal, names a type in use. -/
def isKnown (t : UInt8) : Bool :=
  if t &&& 0xC0 == 0 then universal.contains t else t &&& 0x1F != 0x1F

end Tag

/-! ## Lengths -/

def maxLength : Nat := 0xFFFFFFF

/-- How many octets follow the first one in the shortest form of a length. -/
def lengthExtra (n : Nat) : Nat :=
  if n < 0x80 then 0 else if n < 0x100 then 1 else if n < 0x10000 then 2
  else if n < 0x1000000 then 3 else 4

def encodeLength (n : Nat) : Bytes :=
  let k := lengthExtra n
  if k = 0 then [UInt8.ofNat n] else UInt8.ofNat (0x80 + k) :: Bytes.ofNat k n

/-- A length of at most `limit` and what follows it; only the shortest form is one. -/
def readLengthUpTo? (limit : Nat) : Bytes → Option (Nat × Bytes)
  | [] => none
  | b :: rest =>
    if b < 0x80 then some (b.toNat, rest)
    else
      let k := b.toNat - 0x80
      let digits := rest.take k
      let n := Bytes.toNat digits
      if 1 ≤ k ∧ k ≤ 4 ∧ digits.length = k ∧ n ≤ limit ∧ lengthExtra n = k then
        some (n, rest.drop k)
      else none

def readLength? (s : Bytes) : Option (Nat × Bytes) := readLengthUpTo? maxLength s

/-! ## Elements -/

structure Element where
  tag : UInt8
  content : Bytes
  deriving DecidableEq

namespace Element

def encode (e : Element) : Bytes := e.tag :: (encodeLength e.content.length ++ e.content)

/-- A tag and a length, and what follows them. -/
def readHeader? : Bytes → Option ((UInt8 × Nat) × Bytes)
  | [] => none
  | t :: rest =>
    if Tag.isKnown t then (readLength? rest).map fun (n, rest) => ((t, n), rest) else none

def read? (s : Bytes) : Option (Element × Bytes) := do
  let ((t, n), rest) ← readHeader? s
  let content := rest.take n
  if content.length = n then some (⟨t, content⟩, rest.drop n) else none

def only? (s : Bytes) : Option Element :=
  match read? s with
  | some (e, []) => some e
  | _ => none

/-- At most `fuel` elements that use up the octets. -/
def allWithin : (fuel : Nat) → Bytes → Option (List Element)
  | _, [] => some []
  | 0, _ :: _ => none
  | fuel + 1, s => do
    let (e, rest) ← read? s
    let es ← allWithin fuel rest
    some (e :: es)

/-- An element has at least two octets, so there are no more elements than octets. -/
def all? (s : Bytes) : Option (List Element) := allWithin s.length s

/-- The content of an element that has this tag. -/
def expect? (tag : UInt8) (e : Element) : Option Bytes :=
  if e.tag = tag then some e.content else none

/-- The parts of a sequence. -/
def sequence? (e : Element) : Option (List Element) := expect? Tag.sequence e >>= all?

end Element

end ChainOfTrust.Der
