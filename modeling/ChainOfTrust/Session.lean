import ChainOfTrust.Adapter

/-!
# Sessions

What the adapters of a session share: the statistics, one account for each adapter that was made and
not derived from another, and the anchors installed for the whole session.

- `Session.adapter`: a new adapter with an account of its own;
- `Session.isTrusted`: a check, counted in the adapter's account;
- `Session.install`, `Session.installConfigured`, `Session.fromInstalled`: the installed anchors, which
  are set once and never change.
-/

namespace ChainOfTrust

set_option autoImplicit false

structure Session where
  accounts : List TrustStats := []
  installed : Option TrustAnchors := none

namespace Session

/-! ## Statistics -/

def stats (s : Session) (a : TrustAdapter) : TrustStats := s.accounts.getD a.account {}

def record (s : Session) (a : TrustAdapter) (v : Verdict) : Session :=
  { s with accounts := s.accounts.modify a.account fun t => t.record v }

/-! ## Adapters -/

def adapter (s : Session) (anchors : TrustAnchors) : TrustAdapter × Session :=
  ({ anchors, account := s.accounts.length }, { s with accounts := s.accounts ++ [{}] })

/-- Whether the adapter trusts a chain, and the session after the check. -/
def isTrusted (p : Provider) (now : Instant) (s : Session) (a : TrustAdapter)
    (chain : List Certificate) (authType : String) : Logged Bool × Session :=
  let (events, v) := a.judge p now chain authType
  (⟨events, v.answer⟩, s.record a v)

/-! ## Installed anchors -/

def install (s : Session) (anchors : TrustAnchors) : Logged TrustAnchors × Session :=
  match s.installed with
  | some _ => (⟨[], .error .alreadyInitialized⟩, s)
  | none => (⟨[.installed anchors.size], .ok anchors⟩, { s with installed := some anchors })

/-- Loads the store that a configuration names and installs its anchors. -/
def installConfigured (fs : FileSystem) (s : Session) (c : TrustConfig) :
    Logged TrustAnchors × Session :=
  match c.validate with
  | .error fault => (⟨[], .error fault⟩, s)
  | .ok () =>
    let loaded := TrustAnchors.ofConfig fs c.store
    match loaded.outcome with
    | .error fault => (⟨loaded.events, .error fault⟩, s)
    | .ok anchors =>
      let (r, s) := s.install anchors
      (r.after loaded.events, s)

def fromInstalled (s : Session) : Except TrustError (TrustAdapter × Session) :=
  match s.installed with
  | none => .error (.configuration .noGlobalAnchors)
  | some anchors => .ok (s.adapter anchors)

end Session

end ChainOfTrust
