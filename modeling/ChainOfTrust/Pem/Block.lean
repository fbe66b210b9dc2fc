import ChainOfTrust.Pem.Base64
import ChainOfTrust.Pem.Fault
import ChainOfTrust.Pem.Frame
import ChainOfTrust.Text.Blank

/-!
# PEM blocks

A block is a frame whose parts are in order: a label, the same at both ends, and a base64 content.
The parts are checked in a fixed order, and the first fault counts: opening label, closing label,
that they are the same, data, headers.
-/

namespace ChainOfTrust.Pem

set_option autoImplicit false

structure Block where
  label : String
  content : Bytes
  deriving DecidableEq

/-! ## Parts -/

def readText (s : Bytes) : Except PemFault String :=
  match s.utf8? with
  | some t => .ok t
  | none => .error (.notUtf8 s)

/-- A label, or `missing` if there are no characters. -/
def readLabel (missing : PemFault) (s : Bytes) : Except PemFault String := do
  let t ← readText s
  if t.isEmpty then .error missing else .ok t

/-- White space is left out before decoding. -/
def readContent (data : Bytes) : Except PemFault Bytes := do
  let text := (← readText data).toList.filter fun c => !Text.isBlank c
  match Base64.decode? text with
  | some octets => .ok octets
  | none => .error (.invalidData (String.ofList text))

/-- The lines of a text, without their line feed and a carriage return before it. -/
def lines (s : List Char) : List (List Char) :=
  let parts := s.splitOnP (· == '\n')
  let ended := parts.dropLast.map fun l => if l.getLast? = some '\r' then l.dropLast else l
  match parts.getLast? with
  | some [] | none => ended
  | some l => ended ++ [l]

/-- Every header line has a colon. -/
def checkHeaders (s : Bytes) : Except PemFault Unit := do
  match (lines (← readText s).toList).find? fun l => !l.contains ':' with
  | some l => .error (.invalidHeader (String.ofList l))
  | none => .ok ()

/-! ## Blocks -/

namespace Block

def ofFrame (f : Frame) : Except PemFault Block := do
  let opening ← readLabel .missingBeginLabel f.opening
  let closing ← readLabel .missingEndLabel f.closing
  if opening ≠ closing then .error (.mismatchedLabels opening closing)
  else
    let (headers, data) := Frame.split f.payload
    let octets ← readContent data
    checkHeaders headers
    .ok ⟨opening, octets⟩

/-- The first block of a file. -/
def first (s : Bytes) : Except PemFault Block :=
  match Frame.next? s with
  | none => .error .malformedFraming
  | some (f, _) => ofFrame f

/-- All blocks of a file; one that is not in order spoils the whole file. -/
def all (s : Bytes) : Except PemFault (List Block) := (Frame.all s).mapM ofFrame

end Block

end ChainOfTrust.Pem
