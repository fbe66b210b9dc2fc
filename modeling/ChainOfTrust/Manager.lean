import ChainOfTrust.SupplementaryVerifier

/-!
# Trust managers

A `TrustManager` holds a trust adapter and settings, and builds verifiers from them.

- `TrustManager.rootStore`: the anchors that can serve as roots, with the bundled ones if enabled;
- `TrustManager.verifier`: the adapter in front of a verifier over that store, which must not be empty;
- `TrustManager.ofConfig`, `TrustManager.ofConfigFile`: a manager over a configured store.
-/

namespace ChainOfTrust

set_option autoImplicit false

open ServerAuth (Root)

structure TrustManager where
  adapter : TrustAdapter
  settings : TlsSettings := {}

/-! ## Roots -/

/-- How many public roots come bundled. -/
def bundledRoots : Nat := 120

structure RootStore where
  /-- How many of the bundled roots are in the store. -/
  bundled : Nat
  roots : List Root

def RootStore.size (r : RootStore) : Nat := r.bundled + r.roots.length

/-- The roots that anchors serve as, and a report of those that cannot. -/
def rootsOf : List Certificate → List Event × List Root
  | [] => ([], [])
  | c :: rest =>
    let (events, roots) := rootsOf rest
    match Root.ofDer c.der with
    | .ok root => (events, root :: roots)
    | .error fault => (.anchorRefused c fault.reason :: events, roots)

/-- Settings of a client's channel. -/
structure ChannelConfig where
  verifier : SupplementaryVerifier
  /-- The name of the server is sent. -/
  enableSni : Bool := true
  /-- Protocols offered above the channel. -/
  protocols : List String := []

namespace TrustManager

def rootStore (m : TrustManager) : List Event × RootStore :=
  let (events, roots) := rootsOf m.adapter.anchors.certificates
  let store : RootStore := ⟨if m.settings.useBundledRoots then bundledRoots else 0, roots⟩
  (events ++ [.rootStore store.size], store)

/-! ## Verifiers -/

/-- The verifier over a verifier that `inner` builds from the roots. -/
def verifierWith (inner : RootStore → ServerVerifier) (m : TrustManager) :
    Logged SupplementaryVerifier :=
  let (events, store) := m.rootStore
  ⟨events, if store.size = 0 then .error (.provider .noRoots) else .ok ⟨m.adapter, inner store⟩⟩

def verifier (p : Provider) (m : TrustManager) : Logged SupplementaryVerifier :=
  m.verifierWith fun store => .pathVerifier p store.roots

def channelConfig (p : Provider) (m : TrustManager) : Logged ChannelConfig :=
  (m.verifier p).map fun v => { verifier := v }

/-! ## Building -/

def withAdapter (m : TrustManager) (a : TrustAdapter) : TrustManager := { m with adapter := a }

/-- A manager over anchors, whose adapter is new. -/
def ofAnchors (s : Session) (anchors : TrustAnchors) (settings : TlsSettings) :
    TrustManager × Session :=
  let (a, s) := s.adapter anchors
  (⟨a, settings⟩, s)

def ofConfig (fs : FileSystem) (s : Session) (c : TrustConfig) : Logged (TrustManager × Session) := do
  c.validate
  let anchors ← TrustAnchors.ofConfig fs c.store
  return ofAnchors s anchors c.tls

def ofConfigFile (fs : FileSystem) (s : Session) (path : String) :
    Logged (TrustManager × Session) := do
  let c ← TrustConfig.ofFile fs path
  Logged.emit (.loadingStore c.store.path path)
  ofConfig fs s c

end TrustManager

end ChainOfTrust
