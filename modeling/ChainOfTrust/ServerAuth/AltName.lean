import ChainOfTrust.ServerAuth.Presented
import ChainOfTrust.ServerAuth.ServerName

/-!
# Alternative names

- `AltName.next`: the next name in a subjectAltName extension, or the base of a name constraint;
- `isValidFor`: a certificate is good for a server if one of its alternative names is the server's.
-/

namespace ChainOfTrust.ServerAuth

set_option autoImplicit false

inductive AltName where
  | dns (name : Bytes)
  | directory
  /-- Its text is of no use, since URIs are not compared. -/
  | uri
  | address (octets : Bytes)
  /-- A name of another form, by its number. -/
  | other (number : UInt8)
  deriving DecidableEq

namespace AltName

def ofTag? (tag : UInt8) (content : Bytes) : Option AltName :=
  if tag = 0x82 then some (dns content)
  else if tag = 0xA4 then some directory
  else if tag = 0x86 then some uri
  else if tag = 0x87 then some (address content)
  else if [0xA0, 0x81, 0xA3, 0xA5, 0x88].contains tag then some (other (tag &&& 0x1F))
  else none

def next : Reader AltName := do
  let (tag, content) ← Reader.element
  match ofTag? tag content with
  | some name => return name
  | none => throw .badDer

end AltName

/-- At most `fuel` names, up to the end or to the first that cannot be read, whose fault comes last. -/
def altNamesWithin : (fuel : Nat) → Bytes → List (Except PathFault AltName)
  | 0, _ => []
  | fuel + 1, s =>
    if s.isEmpty then []
    else match AltName.next.run s with
      | .error fault => [.error fault]
      | .ok (name, rest) => .ok name :: altNamesWithin fuel rest

/-- The alternative names of a certificate. -/
def altNames (c : Presented) : List (Except PathFault AltName) :=
  let s := (c.extension? subjectAltName).getD []
  altNamesWithin s.length s

def AltName.isOf (server : ServerName) : AltName → Bool
  | dns presented =>
    match server with
    | .host name => HostName.isPresented presented && HostName.names presented name
    | .address _ => false
  | address octets => server = .address octets
  | _ => false

/-- The first alternative name of the server's, or the first fault before it, decides. -/
def isValidForWithin (server : ServerName) :
    List (Except PathFault AltName) → Except PathFault Unit
  | [] => .error .notValidForName
  | .error fault :: _ => .error fault
  | .ok name :: rest => if name.isOf server then .ok () else isValidForWithin server rest

def isValidFor (server : ServerName) (c : Presented) : Except PathFault Unit :=
  isValidForWithin server (altNames c)

end ChainOfTrust.ServerAuth
