import ChainOfTrust.ServerAuth.NameConstraints
import ChainOfTrust.ServerAuth.Requirements
import ChainOfTrust.ServerAuth.Root
import ChainOfTrust.ServerAuth.SignatureRule

/-!
# Paths to a root

A path leads from a server's certificate over issuers among the presented certificates to a root. Names
are matched first and signatures checked only once a root is reached, from the root down.

- `PathSearch.step`: ends a path at a root, or else extends it by an issuer;
- `PathSearch.build`: the search with a bound on the number of issuers.
-/

namespace ChainOfTrust.ServerAuth

set_option autoImplicit false

/-- What a search is made with. -/
structure PathSearch where
  provider : Provider
  now : Int
  roots : List Root
  intermediates : List Bytes

namespace PathSearch

/-! ## Ending a path -/

/-- The signatures of a path, the nearest to the root first, each under the key above it. -/
def checkSignatures (p : Provider) : (publicKey : Bytes) → (path : List Presented) → Search Unit
  | _, [] => return ()
  | publicKey, c :: below => do
    Search.spendSignature
    Search.check (verifySigned p publicKey c)
    checkSignatures p c.publicKey below

variable (s : PathSearch)

/-- Whether the path `c :: below` may end at a root. -/
def endAt (c : Presented) (below : List Presented) (root : Root) : Search Unit := do
  if c.issuer ≠ root.subject then throw .unknownIssuer
  checkSignatures s.provider root.publicKey (c :: below)
  checkNames root.nameConstraints (c :: below)

/-! ## Extending it -/

def role : (below : List Presented) → Role
  | [] => .server
  | _ :: rest => .issuer (rest.length)

/-- The issuer of `c` that `der` holds. One with the name and the key of a certificate of the path
would close a loop. -/
def issuerFrom (c : Presented) (below : List Presented) (der : Bytes) :
    Except PathFault Presented := do
  let issuer ← Presented.ofDer der
  if issuer.subject ≠ c.issuer then throw .unknownIssuer
  if (c :: below).any fun d => issuer.publicKey = d.publicKey && issuer.subject = d.subject then
    throw .unknownIssuer
  return issuer

/-- Ends or extends the path `c :: below`; `go` is the search from there. -/
def step (go : Presented → List Presented → Search Unit) (c : Presented)
    (below : List Presented) : Search Unit := do
  Search.check (meetsRequirements s.now (role below) c)
  tryCatch (Search.firstSuccess (s.endAt c below) .unknownIssuer s.roots) fun fault =>
    if fault.isFatal then throw fault
    else
      Search.firstSuccess (fun der => do
        let issuer ← Search.check (issuerFrom c below der)
        Search.spendPath
        go issuer (c :: below)) fault s.intermediates

/-- The search with at most `room` more issuers. -/
def build : (room : Nat) → Presented → List Presented → Search Unit
  | 0 => s.step fun _ _ => throw .tooDeep
  | room + 1 => s.step (build room)

def maxIssuers : Nat := 6

/-- A path from a certificate to a root. -/
def run (c : Presented) : Except PathFault Unit := ((s.build maxIssuers c []).run {}).1

end PathSearch

end ChainOfTrust.ServerAuth
