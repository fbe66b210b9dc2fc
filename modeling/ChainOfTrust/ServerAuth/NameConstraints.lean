import ChainOfTrust.ServerAuth.AltName
import ChainOfTrust.ServerAuth.Budget

/-!
# Name constraints

An authority may be good for some names only: each name of a certificate below it must be under one of
the permitted bases of its form, if there are any, and under no excluded one. A host name with a star
stands for many: a permitted base must cover all of them, an excluded one must cover none. Every
certificate has a directory name beside its alternative names; since neither such names nor URIs are
compared, a permitted base never covers one and an excluded base always does. For any other form that
is not compared, a base and a name of the form are a fault by themselves.
-/

namespace ChainOfTrust.ServerAuth

set_option autoImplicit false

/-! ## Addresses -/

/-- The octets of a mask: ones and then zeros. -/
def maskOctets : List UInt8 := [0x00, 0x80, 0xC0, 0xE0, 0xF0, 0xF8, 0xFC, 0xFE, 0xFF]

/-- Compares octet by octet under a mask, which is looked at up to the first difference. -/
def underMask (ended : Bool) : (address base mask : Bytes) → Except PathFault Bool
  | a :: address, b :: base, m :: mask =>
    if !maskOctets.contains m || (ended && m != 0) then .error .malformedMask
    else if (a ^^^ b) &&& m != 0 then .ok false
    else underMask (ended || m != 0xFF) address base mask
  | _, _, _ => .ok true

/-- A constraint is an address and a mask of its length. -/
def addressWithin (address constraint : Bytes) : Except PathFault Bool :=
  if address.length ≠ 4 ∧ address.length ≠ 16 then .error .badDer
  else if constraint.length = 2 * address.length then
    underMask false address (constraint.take address.length) (constraint.drop address.length)
  else if constraint.length = 8 ∨ constraint.length = 32 then .ok false
  else .error .malformedMask

/-! ## Bases -/

inductive Subtrees where
  | permitted
  | excluded
  deriving DecidableEq

/-- Whether a base covers a name, or `none` if they are of different forms. -/
def coveredBy? (trees : Subtrees) : (name base : AltName) → Option (Except PathFault Bool)
  | .dns name, .dns base =>
    some <|
      if !HostName.isPresented name then .error .malformedHostName
      else if !HostName.isConstraint base then .error .malformedConstraint
      else .ok <| match trees with
        | .permitted => HostName.allWithin name base
        | .excluded => HostName.someWithin name base
  | .directory, .directory | .uri, .uri => some (.ok (trees = .excluded))
  | .address name, .address base => some (addressWithin name base)
  | .other m, .other n => if m = n then some (.error .nameConstraint) else none
  | _, _ => none

/-- The next base. -/
def nextBase : Reader AltName := do
  Reader.all .trailingData AltName.next (← Reader.expect Der.Tag.sequence)

/-- Compares a name with the bases in `s`, at most `fuel` of them; `covered` and `missed` say how it
went before. A name under an excluded base is a fault. -/
def compareBases (trees : Subtrees) (name : AltName) :
    (fuel : Nat) → (s : Bytes) → (covered missed : Bool) → Search (Bool × Bool)
  | 0, _, covered, missed => return (covered, missed)
  | fuel + 1, s, covered, missed => do
    if s.isEmpty then return (covered, missed)
    Search.spendComparison
    let (base, rest) ← Search.check (nextBase.run s)
    match coveredBy? trees name base with
    | none => compareBases trees name fuel rest covered missed
    | some r =>
      let isCovered ← Search.check r
      if isCovered && trees = .excluded then throw .nameConstraint
      compareBases trees name fuel rest (covered || isCovered)
        (missed || (!isCovered && trees = .permitted))

def checkBases (trees : Subtrees) (name : AltName) (bases : Option Bytes) : Search Unit := do
  let s := bases.getD []
  let (covered, missed) ← compareBases trees name s.length s false false
  if missed && !covered then throw .nameConstraint

/-! ## Constraints -/

/-- The bases under a tag, if there are any. -/
def bases (tag : UInt8) : Reader (Option Bytes) := do
  if ← Reader.peek tag then return some (← Reader.expect tag) else return none

/-- The permitted and the excluded bases. -/
def subtrees : Reader (Option Bytes × Option Bytes) := do
  let permitted ← bases 0xA0
  let excluded ← bases 0xA1
  return (permitted, excluded)

/-- The names of a certificate, its directory name last unless a name before it cannot be read. -/
def constrainedNames (c : Presented) : List (Except PathFault AltName) :=
  let names := altNames c
  if names.all Except.isOk then names ++ [.ok .directory] else names

/-- The names of all certificates of a path against one set of constraints. -/
def checkConstraints (constraints : Option Bytes) (path : List Presented) : Search Unit := do
  match constraints with
  | none => return ()
  | some s =>
    let ((permitted, excluded), rest) ← Search.check (subtrees.run s)
    (path.flatMap constrainedNames).forM fun r => do
      let name ← Search.check r
      checkBases .permitted name permitted
      checkBases .excluded name excluded
    if !rest.isEmpty then throw .badDer

/-- The constraints of a root and of each certificate of a path, the nearest to the root first, on the
certificates below. -/
def checkNames (constraints : Option Bytes) : (path : List Presented) → Search Unit
  | [] => return ()
  | c :: below => do
    checkConstraints constraints (c :: below)
    checkNames (c.extension? nameConstraints) below

end ChainOfTrust.ServerAuth
