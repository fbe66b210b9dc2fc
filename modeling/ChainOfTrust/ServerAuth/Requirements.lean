import ChainOfTrust.Crypto.Ecdsa
import ChainOfTrust.ServerAuth.SignatureRule

/-!
# What a certificate must be by itself

`meetsRequirements` looks at one certificate of a path, whatever its issuer: its period, whether it
may issue certificates, what it may be used for, and whether its key is a secret at all.
-/

namespace ChainOfTrust.ServerAuth

set_option autoImplicit false

/-- Where a certificate stands in a path. -/
inductive Role where
  | server
  /-- An issuer above so many other issuers. -/
  | issuer (below : Nat)
  deriving DecidableEq

/-! ## Period -/

def checkPeriod (now : Int) : Reader Unit := do
  let notBefore ← Reader.time
  let notAfter ← Reader.time
  if notAfter < notBefore then throw .invalidPeriod
  if now < notBefore then throw .notYetValid
  if (notAfter : Int) < now then throw .expired

/-! ## Issuing -/

/-- Whether the certificate is of an authority, and how many issuers it allows below it. -/
def readConstraints : Reader (Bool × Option Nat) := do
  let isAuthority ← Reader.optionalBool
  if ← Reader.atEnd then return (isAuthority, none)
  return (isAuthority, some (← Reader.smallNat))

def checkRole (role : Role) (isAuthority : Bool) (limit : Option Nat) : Except PathFault Unit :=
  match role, isAuthority with
  | .server, true => .error .authorityAsServer
  | .server, false => .ok ()
  | .issuer _, false => .error .serverAsAuthority
  | .issuer below, true =>
    match limit with
    | some n => if n < below then .error .pathLength else .ok ()
    | none => .ok ()

def checkIssuing (role : Role) (constraints : Option Bytes) : Except PathFault Unit := do
  match constraints with
  | none => checkRole role false none
  | some s =>
    Reader.all .badDer (do
      let (isAuthority, limit) ← readConstraints
      checkRole role isAuthority limit) s

/-! ## Purpose -/

/-- The identifier of id-kp-serverAuth. -/
def serverAuthPurpose : Oid := .ofArcs [1, 3, 6, 1, 5, 5, 7, 3, 1]

/-- Reads purposes up to the one wanted; at most `fuel` of them. -/
def findPurpose : (fuel : Nat) → Reader Unit
  | 0 => throw .purpose
  | fuel + 1 => do
    let found ← Reader.expect Der.Tag.oid
    if found = serverAuthPurpose.content then
      let _ ← Reader.rest
      return ()
    if ← Reader.atEnd then throw .purpose
    findPurpose fuel

/-- A certificate without a list of purposes is for all; an empty list is a fault. -/
def checkPurpose (purposes : Option Bytes) : Except PathFault Unit :=
  match purposes with
  | none => .ok ()
  | some [] => .error .noPurpose
  | some s => Reader.all .badDer (findPurpose (s.length + 1)) s

/-! ## Key -/

/-- A key on P-384 must not be guessable; a key of another kind is not looked at. -/
def checkKey (publicKey : Bytes) : Except PathFault Unit :=
  match Reader.all .trailingData publicKeyParts publicKey with
  | .ok (identifier, key) =>
    if identifier = SignatureRule.curveIdentifier .p384 && Crypto.Ecdsa.isGuessable .p384 key then
      .error .guessableKey
    else .ok ()
  | .error _ => .ok ()

/-! ## All of them -/

def meetsRequirements (now : Int) (role : Role) (c : Presented) : Except PathFault Unit := do
  Reader.all .badDer (checkPeriod now) c.validity
  checkIssuing role (c.extension? basicConstraints)
  checkPurpose (c.extension? extendedKeyUsage)
  checkKey c.publicKey

end ChainOfTrust.ServerAuth
