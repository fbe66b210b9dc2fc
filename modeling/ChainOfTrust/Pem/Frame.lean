import ChainOfTrust.Bytes

/-!
# PEM frames

A frame is what stands between a `-----BEGIN …-----` and the next `-----END …-----`, whatever lies
around it.

- `seek`: the text before a marker and the text after it. A marker is looked for octet by octet, and
  an octet that breaks off a partial match is not taken as the start of another: in six dashes the
  marker of five is not found at the second;
- `Frame.next?`, `Frame.all`: the first frame and what follows it, and all frames in order. Text
  after the last whole frame is passed over.
-/

namespace ChainOfTrust.Pem

set_option autoImplicit false

/-! ## Markers -/

/-- How many octets of the marker are matched after `b`, if `found` were before. -/
def advance (marker : Bytes) (found : Nat) (b : UInt8) : Nat :=
  if marker[found]? = some b then found + 1 else 0

/-- `passed` holds the octets passed, the last one first, of which `found` match the marker. -/
def seekFrom (marker passed : Bytes) (found : Nat) : Bytes → Option (Bytes × Bytes)
  | [] => none
  | b :: rest =>
    if advance marker found b = marker.length then
      some (((b :: passed).drop marker.length).reverse, rest)
    else seekFrom marker (b :: passed) (advance marker found b) rest

/-- What precedes the first match of a marker, and what follows it. -/
def seek (marker s : Bytes) : Option (Bytes × Bytes) := seekFrom marker [] 0 s

theorem length_of_seekFrom {marker passed s before after : Bytes} {found : Nat}
    (h : seekFrom marker passed found s = some (before, after)) : after.length < s.length := by
  induction s generalizing passed found with
  | nil => simp [seekFrom] at h
  | cons b rest ih =>
    simp only [seekFrom] at h
    split at h
    · simp only [Option.some.injEq, Prod.mk.injEq] at h
      simp [← h.2]
    · exact Nat.lt_succ_of_lt (ih h)

theorem length_of_seek {marker s before after : Bytes}
    (h : seek marker s = some (before, after)) : after.length < s.length := length_of_seekFrom h

def beginMarker : Bytes := Bytes.ofAscii "-----BEGIN "

def endMarker : Bytes := Bytes.ofAscii "-----END "

def dashes : Bytes := Bytes.ofAscii "-----"

/-- Space, tab, line feed or carriage return. -/
def isGap (b : UInt8) : Bool := b == 0x20 || b == 0x09 || b == 0x0A || b == 0x0D

/-! ## Frames -/

structure Frame where
  opening : Bytes
  payload : Bytes
  closing : Bytes
  deriving DecidableEq

namespace Frame

def next? (s : Bytes) : Option (Frame × Bytes) := do
  let (_, s) ← seek beginMarker s
  let (opening, s) ← seek dashes s
  let (payload, s) ← seek endMarker (s.dropWhile isGap)
  let (closing, s) ← seek dashes s
  some (⟨opening, payload, closing⟩, s.dropWhile isGap)

theorem length_dropWhile_le (s : Bytes) : (s.dropWhile isGap).length ≤ s.length :=
  (List.dropWhile_sublist _).length_le

theorem length_of_next {s rest : Bytes} {f : Frame} (h : next? s = some (f, rest)) :
    rest.length < s.length := by
  simp only [next?, Option.bind_eq_bind, Option.bind_eq_some_iff, Option.some.injEq] at h
  obtain ⟨⟨_, s₁⟩, h₁, ⟨_, s₂⟩, h₂, ⟨_, s₃⟩, h₃, ⟨_, s₄⟩, h₄, e⟩ := h
  cases e
  dsimp only at h₂ h₃ h₄
  have := length_of_seek h₁
  have := length_of_seek h₂
  have := length_of_seek h₃
  have := length_of_seek h₄
  have := length_dropWhile_le s₂
  have := length_dropWhile_le s₄
  dsimp only
  omega

def all (s : Bytes) : List Frame :=
  match _h : next? s with
  | none => []
  | some (f, rest) => f :: all rest
termination_by s.length
decreasing_by exact length_of_next _h

/-- The headers of a payload and its data: an empty line ends the headers, if there is one. -/
def split (payload : Bytes) : Bytes × Bytes :=
  match seek [0x0A, 0x0A] payload with
  | some (headers, data) => (headers, data)
  | none => (seek [0x0D, 0x0A, 0x0D, 0x0A] payload).getD ([], payload)

end Frame

end ChainOfTrust.Pem
