import ChainOfTrust.Bytes

/-!
# Host names

A host name is labels with points between them. A label has 1 to 63 letters, digits, hyphens and low
lines and neither begins nor ends with a hyphen, the last label is not all digits, and a name has at
most 253 octets. Letters match in either case.

- `isHost`, `isPresented`: the name of a host, and a name in a certificate, which may begin
  with `*.` before two labels or more;
- `HostName.names`: a presented name is one of the host asked for, whose final point does not count;
- `HostName.someWithin`, `HostName.allWithin`: some host of a presented name, or each of them, lies
  under a constraint.
-/

namespace ChainOfTrust.ServerAuth.HostName

set_option autoImplicit false

def point : UInt8 := 0x2E

def hyphen : UInt8 := 0x2D

def star : UInt8 := 0x2A

/-! ## Form -/

def isDigit (b : UInt8) : Bool := 0x30 ≤ b && b ≤ 0x39

def isLetter (b : UInt8) : Bool := (0x41 ≤ b && b ≤ 0x5A) || (0x61 ≤ b && b ≤ 0x7A)

def isLabelOctet (b : UInt8) : Bool := isLetter b || isDigit b || b == hyphen || b == 0x5F

def isLabel (l : Bytes) : Bool :=
  1 ≤ l.length && l.length ≤ 63 && l.all isLabelOctet && l.head? != some hyphen &&
    l.getLast? != some hyphen

def labels (name : Bytes) : List Bytes := name.splitOn point

/-- Labels of a name that ends without a point. -/
def areLabels (ls : List Bytes) : Bool :=
  ls.all isLabel && !(ls.getLastD []).all isDigit

def maxLength : Nat := 253

def withoutFinalPoint (name : Bytes) : Bytes :=
  if name.getLast? = some point then name.dropLast else name

/-- The name of a host, which may end with a point. -/
def isHost (name : Bytes) : Bool :=
  name.length ≤ maxLength && areLabels (labels (withoutFinalPoint name))

def isPresented (name : Bytes) : Bool :=
  name.length ≤ maxLength &&
    match labels name with
    | [0x2A] :: rest => 2 ≤ rest.length && areLabels rest
    | ls => areLabels ls

/-- A constraint is empty, or labels that may follow a point. -/
def isConstraint (name : Bytes) : Bool :=
  name.length ≤ maxLength &&
    match labels name with
    | [] :: rest => rest.isEmpty || areLabels rest
    | ls => areLabels ls

/-! ## Matching -/

def lower (name : Bytes) : Bytes :=
  name.map fun b => if 0x41 ≤ b && b ≤ 0x5A then b + 0x20 else b

/-- Both are the same name, a leading star standing for the first label. -/
def same (presented name : Bytes) : Bool :=
  match presented with
  | 0x2A :: rest =>
    let name := (name.drop 1).dropWhile (· != point)
    !name.isEmpty && lower rest == lower name
  | _ => lower presented == lower name

def names (presented host : Bytes) : Bool := same presented (withoutFinalPoint host)

/-- The name under the constraint, or below it if it is longer. A star stands for any one label. -/
def someWithin (presented constraint : Bytes) : Bool :=
  if constraint.length < presented.length then
    let more := presented.length - constraint.length
    constraint.isEmpty ||
      (lower (presented.drop more) == lower constraint &&
        (constraint.head? == some point || presented[more - 1]? == some point))
  else same presented constraint

/-- A leading star stands for more labels than a constraint as long as the name has. -/
def allWithin (presented constraint : Bytes) : Bool :=
  someWithin presented constraint &&
    (presented.head? != some star || constraint.length < presented.length)

end ChainOfTrust.ServerAuth.HostName
