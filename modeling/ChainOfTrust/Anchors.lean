import ChainOfTrust.Config
import ChainOfTrust.FileTree
import ChainOfTrust.Pem.Certificates

/-!
# Trust anchors

An ordered list of certificates and the stores it is loaded from. The order matters: of two anchors
with one name, the later is tried first.

- `StoreSource.load`: the certificates of a bundle, or of the certificate files of a directory by
  name. Anything that cannot be read or decoded makes the whole store unavailable;
- `TrustAnchors.load`: the same, with a report of what was found.
-/

namespace ChainOfTrust

set_option autoImplicit false

/-! ## Sources -/

inductive StoreSource where
  /-- A file of PEM blocks. -/
  | bundle (path : String)
  /-- A directory of such files. -/
  | directory (path : String)
  deriving DecidableEq

namespace StoreSource

def describe : StoreSource → String
  | bundle path => "PEM bundle " ++ path
  | directory path => "PEM directory " ++ path

def ofConfig (c : StoreConfig) : StoreSource :=
  match c.format with
  | .pemBundle => bundle c.path
  | .pemDirectory => directory c.path

/-! ## Directories -/

variable (fs : FileSystem)

/-- A name that ends in `.pem` or `.crt`, with something before the point. -/
def isCertificateName (name : String) : Bool :=
  FilePath.extension? name = some "pem" || FilePath.extension? name = some "crt"

/-- An entry is looked up under its own path, which may be too long where the directory's is not. -/
def isCertificateFile (dir name : String) : Bool :=
  isCertificateName name && fs.isFile (FilePath.join dir name)

/-- The certificate files among the entries of a directory, by name. -/
def certificateFiles (dir : String) (names : List String) : List String :=
  (names.filter (isCertificateFile fs dir)).mergeSort fun a b => !(b < a)

/-- The certificates of files in the directory `dir`, one file after another. -/
def loadFiles (dir : String) : (names : List String) → Logged (List Certificate)
  | [] => ⟨[], .ok []⟩
  | name :: rest =>
    let path := FilePath.join dir name
    match fs.readFile path with
    | .error fault => ⟨[], .error (.trustStore (.unreadable path fault))⟩
    | .ok data => do
      let here ← Pem.readBundle path data
      let others ← loadFiles dir rest
      return here ++ others

/-! ## Loading -/

def load : StoreSource → Logged (List Certificate)
  | bundle path =>
    match fs.readFile path with
    | .error fault => ⟨[], .error (.trustStore (.unreadable path fault))⟩
    | .ok data => Pem.readBundle path data
  | directory dir =>
    match fs.listDirectory dir with
    | .error fault => ⟨[], .error (.trustStore (.unlistable dir fault))⟩
    | .ok entries =>
      let names := entries.map (·.1)
      let skipped := names.filter fun n => !isCertificateFile fs dir n
      (loadFiles fs dir (certificateFiles fs dir names)).after
        (skipped.map fun n => .skippedEntry (FilePath.join dir n))

end StoreSource

/-! ## Anchors -/

structure TrustAnchors where
  certificates : List Certificate
  deriving DecidableEq

namespace TrustAnchors

def size (a : TrustAnchors) : Nat := a.certificates.length

def load (fs : FileSystem) (source : StoreSource) : Logged TrustAnchors := do
  let cs ← source.load fs
  Logged.emit (if cs.isEmpty then .emptyStore source.describe
    else .loadedStore cs.length source.describe)
  return ⟨cs⟩

def ofConfig (fs : FileSystem) (c : StoreConfig) : Logged TrustAnchors :=
  load fs (.ofConfig c)

end TrustAnchors

end ChainOfTrust
