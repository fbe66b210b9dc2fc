import ChainOfTrust.Error
import ChainOfTrust.FileTree
import ChainOfTrust.Json.Reader

/-!
# Configuration

Where the trust store lies, how it is laid out, and whether the inner verifier also trusts the
bundled public roots.

- `TrustConfig.ofJson`: a configuration from a JSON document, which must name a store. A record is
  an object, or an array of its fields in order; fields left out take their defaults and unknown
  ones are passed over, but a known field must not come twice;
- `TrustConfig.toJson`: the document of a configuration.
-/

namespace ChainOfTrust

set_option autoImplicit false

open Json (Value)

/-! ## Settings -/

inductive StoreFormat where
  | pemBundle
  | pemDirectory
  deriving DecidableEq

structure StoreConfig where
  path : String := ""
  format : StoreFormat := .pemBundle
  deriving DecidableEq

structure TlsSettings where
  useBundledRoots : Bool := true
  deriving DecidableEq

structure TrustConfig where
  store : StoreConfig := {}
  tls : TlsSettings := {}
  deriving DecidableEq

def TrustConfig.pemBundle (path : String) : TrustConfig := { store := ⟨path, .pemBundle⟩ }

def TrustConfig.pemDirectory (path : String) : TrustConfig := { store := ⟨path, .pemDirectory⟩ }

def TrustConfig.validate (c : TrustConfig) : Except TrustError Unit :=
  if c.store.path.isEmpty then .error (.configuration .emptyPath) else .ok ()

/-! ## Records -/

/-- The fields of a record in the order of their names, `none` for each that is left out. -/
def recordFields? (names : List String) : Value → Option (List (Option Value))
  | .array items =>
    if items.length ≤ names.length then
      some (items.map some ++ List.replicate (names.length - items.length) none)
    else none
  | .object members =>
    let keys := members.map (·.1)
    if keys.all Option.isSome && names.all fun n => keys.count (some n) ≤ 1 then
      some (names.map fun n => members.lookup (some n))
    else none
  | _ => none

/-- A field with its default. -/
def field? {α : Type} (read? : Value → Option α) (default : α) : Option Value → Option α
  | none => some default
  | some v => read? v

/-! ## Reading -/

def StoreFormat.name : StoreFormat → String
  | .pemBundle => "pem-bundle"
  | .pemDirectory => "pem-directory"

def StoreFormat.ofName? (s : String) : Option StoreFormat :=
  if s = "pem-bundle" then some .pemBundle
  else if s = "pem-directory" then some .pemDirectory
  else none

/-- The name alone, or an object with the name as its only key and null under it. -/
def StoreFormat.ofJson? : Value → Option StoreFormat
  | .text (some s) => ofName? s
  | .object [(some s, .null)] => ofName? s
  | _ => none

def readPath? : Value → Option String
  | .text s => s
  | _ => none

def readBool? : Value → Option Bool
  | .bool b => some b
  | _ => none

def StoreConfig.ofJson? (v : Value) : Option StoreConfig := do
  match ← recordFields? ["path", "format"] v with
  | [path, format] =>
    some ⟨← field? readPath? "" path, ← field? StoreFormat.ofJson? .pemBundle format⟩
  | _ => none

def TlsSettings.ofJson? (v : Value) : Option TlsSettings := do
  match ← recordFields? ["use_webpki_roots"] v with
  | [roots] => some ⟨← field? readBool? true roots⟩
  | _ => none

def TrustConfig.ofValue? (v : Value) : Option TrustConfig := do
  match ← recordFields? ["trust_store", "tls"] v with
  | [store, tls] =>
    some ⟨← field? StoreConfig.ofJson? {} store, ← field? TlsSettings.ofJson? {} tls⟩
  | _ => none

def TrustConfig.ofJson (document : String) : Except TrustError TrustConfig :=
  match Json.parse? document.toList >>= ofValue? with
  | none => .error (.configuration (.malformed document))
  | some c => do
    c.validate
    return c

def TrustConfig.ofFile (fs : FileSystem) (path : String) : Except TrustError TrustConfig :=
  match fs.readText path with
  | .error fault => .error (.inputOutput fault)
  | .ok document => ofJson document

/-! ## Writing -/

def TrustConfig.toValue (c : TrustConfig) : Value :=
  .object [
    (some "trust_store", .object [
      (some "path", .text (some c.store.path)), (some "format", .text (some c.store.format.name))]),
    (some "tls", .object [(some "use_webpki_roots", .bool c.tls.useBundledRoots)])]

def TrustConfig.toJson (c : TrustConfig) : String := c.toValue.render

end ChainOfTrust
