import ChainOfTrust.ServerAuth.HostName

/-!
# Names of servers

A server is asked for by a host name or by an address.

- `Address.v4?`, `Address.v6?`: four decimal octets, or eight hexadecimal groups, of which one run of
  zeros may be left out and the last two may be written as four octets;
- `ServerName.ofText?`: a name that is no host name is read as an address.
-/

namespace ChainOfTrust.ServerAuth

set_option autoImplicit false

/-! ## Addresses -/

namespace Address

def hexValue? (c : Char) : Option Nat :=
  if c.isDigit then some (c.toNat - '0'.toNat)
  else if 'a' ≤ c ∧ c ≤ 'f' then some (c.toNat - 'a'.toNat + 10)
  else if 'A' ≤ c ∧ c ≤ 'F' then some (c.toNat - 'A'.toNat + 10)
  else none

/-- A decimal number below 256 without superfluous zeros in front. -/
def octet? (s : List Char) : Option UInt8 :=
  let n := s.foldl (fun n c => n * 10 + (c.toNat - '0'.toNat)) 0
  if 1 ≤ s.length ∧ s.length ≤ 3 ∧ s.all Char.isDigit ∧ (s.head? ≠ some '0' ∨ s.length = 1) ∧ n < 256
  then some (UInt8.ofNat n) else none

def v4? (s : List Char) : Option Bytes :=
  let parts := s.splitOn '.'
  if parts.length = 4 then parts.mapM octet? else none

/-- The two octets of a group of one to four hexadecimal digits. -/
def group? (s : List Char) : Option Bytes := do
  let digits ← s.mapM hexValue?
  if 1 ≤ digits.length ∧ digits.length ≤ 4 then
    some (Bytes.ofNat 2 (digits.foldl (fun n d => n * 16 + d) 0))
  else none

/-- Groups with colons between them; the last may be an address of four octets if `mixed`. -/
def groups? (mixed : Bool) (s : List Char) : Option Bytes :=
  if s.isEmpty then some []
  else
    let parts := s.splitOn ':'
    match if mixed then v4? (parts.getLastD []) else none with
    | some last => do
      let first ← parts.dropLast.mapM group?
      some (first.flatten ++ last)
    | none => (parts.mapM group?).map List.flatten

/-- What stands before the first two colons in a row and what stands after them. -/
def splitAtGap : List Char → Option (List Char × List Char)
  | ':' :: ':' :: rest => some ([], rest)
  | c :: rest => (splitAtGap rest).map fun (a, b) => (c :: a, b)
  | [] => none

def v6? (s : List Char) : Option Bytes := do
  match splitAtGap s with
  | none =>
    let octets ← groups? true s
    if octets.length = 16 then some octets else none
  | some (a, b) =>
    let front ← groups? false a
    let back ← groups? true b
    if front.length + back.length ≤ 14 then
      some (front ++ List.replicate (16 - (front.length + back.length)) 0 ++ back)
    else none

end Address

/-! ## Names -/

inductive ServerName where
  | host (name : Bytes)
  | address (octets : Bytes)
  deriving DecidableEq

namespace ServerName

def ofText? (text : String) : Option ServerName :=
  let name := Bytes.ofUtf8 text
  if HostName.isHost name then some (host name)
  else ((Address.v4? text.toList).or (Address.v6? text.toList)).map address

def text : ServerName → String
  | host name => String.ofList (name.map fun b => Char.ofNat b.toNat)
  | address octets => octets.hex

end ServerName

end ChainOfTrust.ServerAuth
