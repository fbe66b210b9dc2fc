import ChainOfTrust.Der.Element
import ChainOfTrust.Der.Time
import ChainOfTrust.ServerAuth.Fault

/-!
# Reading what a server presents

A `Reader` takes values from the front of an octet string. It is stricter than `Der.Element.read?` in
size, no content being longer than `maxSize`, and takes any tag that fits one octet.

- `Reader.element`, `Reader.expect`: the next element, of any tag or of a given one;
- `Reader.all`, `Reader.nested`: a reader for a whole octet string, or a whole content;
- `Reader.fold`: a reader repeated up to the end.
-/

namespace ChainOfTrust.ServerAuth

set_option autoImplicit false

abbrev Reader (α : Type) := StateT Bytes (Except PathFault) α

namespace Reader

variable {α σ : Type}

def maxSize : Nat := 0xFFFE

/-! ## Octets -/

def atEnd : Reader Bool := return (← get).isEmpty

/-- The next octet is `b`. -/
def peek (b : UInt8) : Reader Bool := return (← get).head? == some b

/-- What is left. -/
def rest : Reader Bytes := modifyGet fun s => (s, [])

/-- The next `n` octets. -/
def octets (n : Nat) (fault : PathFault) : Reader Bytes := do
  let s ← get
  if s.length < n then throw fault
  set (s.drop n)
  return s.take n

/-! ## Elements -/

/-- A tag, its content, and what follows. -/
def readElement? : Bytes → Option ((UInt8 × Bytes) × Bytes)
  | [] => none
  | tag :: rest =>
    if tag &&& 0x1F == 0x1F then none
    else match Der.readLengthUpTo? maxSize rest with
      | none => none
      | some (n, rest) => if rest.length < n then none else some ((tag, rest.take n), rest.drop n)

def element : Reader (UInt8 × Bytes) := do
  match readElement? (← get) with
  | none => throw .badDer
  | some (e, rest) => do
    set rest
    return e

def expect (tag : UInt8) : Reader Bytes := do
  let (found, content) ← element
  if found = tag then return content else throw .badDer

/-! ## Whole values -/

/-- What `r` makes of all of `s`; octets left over are the fault. -/
def all (fault : PathFault) (r : Reader α) (s : Bytes) : Except PathFault α := do
  let (a, rest) ← r.run s
  if rest.isEmpty then return a else throw fault

/-- What `r` makes of the content of the next element, which must have the tag. -/
def nested (tag : UInt8) (fault : PathFault) (r : Reader α) : Reader α := do
  let content ← tryCatch (expect tag) fun _ => throw fault
  all fault r content

/-- At most `fuel` steps, up to the end. -/
def foldWithin (step : σ → Reader σ) : (fuel : Nat) → σ → Reader σ
  | 0, a => return a
  | fuel + 1, a => do
    if ← atEnd then return a
    foldWithin step fuel (← step a)

/-- A step that reads something ends the input after at most as many steps as there are octets. -/
def fold (step : σ → Reader σ) (a : σ) : Reader σ := do
  foldWithin step (← get).length a

/-! ## Common values -/

/-- A truth value that is left out when false. -/
def optionalBool : Reader Bool := do
  if ← peek Der.Tag.boolean then
    nested Der.Tag.boolean .trailingData do
      match ← octets 1 .badDer with
      | [0xFF] => return true
      | [0x00] => return false
      | _ => throw .badDer
  else return false

/-- An integer from 0 to 255. -/
def smallNat : Reader Nat := do
  match ← expect Der.Tag.integer with
  | [b] => if b < 0x80 then return b.toNat else throw .badDer
  | [0x00, b] => if 0x80 ≤ b then return b.toNat else throw .badDer
  | _ => throw .badDer

/-- The octets of a bit string without unused bits. -/
def bits : Reader Bytes :=
  nested Der.Tag.bitString .trailingData do
    match ← octets 1 .badDer with
    | [0] => rest
    | _ => throw .badDer

/-- A second, counted from 1970. -/
def time : Reader Nat := do
  let isUtc ← peek Der.Tag.utcTime
  nested (if isUtc then Der.Tag.utcTime else Der.Tag.generalizedTime) .trailingData do
    let s ← octets (if isUtc then 13 else 15) .badTime
    match if isUtc then Der.utcTime? s else Der.generalizedTime? s with
    | some t => return t
    | none => throw .badTime

end Reader

end ChainOfTrust.ServerAuth
