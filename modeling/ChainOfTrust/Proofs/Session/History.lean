import Mathlib.Logic.Relation
import ChainOfTrust.Proofs.Verifier.Deferral

/-!
# The history of a session

A session makes adapters, managers and verifiers, checks chains through them and installs anchors, in
any order. Its history keeps all that was made and how it came about.

* `Holder` : an adapter, or a manager or verifier with the adapter in it;
* `Operation`, `History.step`, `History.run` : what a session does, and the history after it;
* `Related i j` : one of two adapters was made from the other, or both through others;
* `Call` : a check that was made, and `Call.belongs`, the counters it belongs to;
* `Move`, `step_move` : all that an operation does to holders, accounts and calls.
-/

namespace ChainOfTrust

set_option autoImplicit false

/-! ## What is made -/

inductive Holder where
  | alone (a : TrustAdapter)
  | manager (m : TrustManager)
  | verifier (v : SupplementaryVerifier)

def Holder.adapter : Holder → TrustAdapter
  | alone a => a
  | manager m => m.adapter
  | verifier v => v.adapter

/-- The numbers are those of holders, counted from the first that was made. -/
inductive Operation where
  | create (anchors : TrustAnchors)
  | manage (anchors : TrustAnchors) (settings : TlsSettings)
  /-- The adapter of a holder once more. -/
  | clone (i : Nat)
  | withValidator (i : Nat) (v : ChainValidator)
  /-- The manager `m` with the adapter of `i`. -/
  | withAdapter (m i : Nat)
  | verifier (i : Nat)
  | check (i : Nat) (now : Instant) (chain : List Certificate) (authType : String)
  | verify (i : Nat) (now : Instant) (x : Presentation)
  | install (anchors : TrustAnchors)
  | installConfigured (fs : FileSystem) (c : TrustConfig)
  | fromInstalled

/-- Whose adapter an operation asks to check a chain. -/
def Operation.asks? : Operation → Option Nat
  | check i _ _ _ => some i
  | verify i _ _ => some i
  | _ => none

/-! ## Checks -/

structure Call where
  through : Nat
  adapter : TrustAdapter
  now : Instant
  chain : List Certificate

namespace Call

/-- How the leaf validates, if there is one. -/
def outcome? (p : Provider) (k : Call) : Option (Except TrustError Bool) :=
  k.chain.head?.map fun leaf =>
    (k.adapter.validator.validate p k.now leaf k.adapter.anchors.certificates).outcome

def belongs (p : Provider) (k : Call) (c : Counter) : Bool :=
  match c, k.outcome? p with
  | .checks, _ => true
  | .validated, some (.ok true) => true
  | .rejected, some (.ok false) => true
  | .empty, none => true
  | .fatal, some (.error _) => true
  | _, _ => false

end Call

/-! ## Histories -/

structure History where
  session : Session := {}
  holders : List Holder := []
  /-- From which holder's adapter which other holder's was made. -/
  derived : List (Nat × Nat) := []
  calls : List Call := []
  /-- The answers to the attempts at installing anchors. -/
  installs : List (Except TrustError TrustAnchors) := []

namespace History

def add (h : History) (x : Holder) (s : Session) : History :=
  { h with holders := h.holders ++ [x], session := s }

def derive (h : History) (i : Nat) (x : Holder) : History :=
  { h with holders := h.holders ++ [x], derived := h.derived ++ [(i, h.holders.length)] }

def answer (h : History) (r : Logged TrustAnchors × Session) : History :=
  { h with session := r.2, installs := h.installs ++ [r.1.outcome] }

def checked (p : Provider) (h : History) (i : Nat) (a : TrustAdapter) (now : Instant)
    (chain : List Certificate) (authType : String) : History :=
  { h with
    session := (h.session.isTrusted p now a chain authType).2
    calls := h.calls ++ [⟨i, a, now, chain⟩] }

/-- The adapter is asked only if there is a leaf to check. -/
def verified (p : Provider) (h : History) (i : Nat) (v : SupplementaryVerifier) (now : Instant)
    (x : Presentation) : History :=
  { h with
    session := (v.verifyCertificate p now h.session x).session
    calls := h.calls ++ ((SupplementaryVerifier.presentedChain x).2.map fun chain =>
      (⟨i, v.adapter, now, chain⟩ : Call)).toList }

/-- An operation on a holder that is not there, or is of another kind, does nothing. -/
def step (p : Provider) (inner : RootStore → ServerVerifier) (h : History) : Operation → History
  | .create anchors =>
    let (a, s) := h.session.adapter anchors
    h.add (.alone a) s
  | .manage anchors settings =>
    let (m, s) := TrustManager.ofAnchors h.session anchors settings
    h.add (.manager m) s
  | .clone i =>
    match h.holders[i]? with
    | some x => h.derive i (.alone x.adapter)
    | none => h
  | .withValidator i v =>
    match h.holders[i]? with
    | some x => h.derive i (.alone (x.adapter.withValidator v))
    | none => h
  | .withAdapter m i =>
    match h.holders[m]?, h.holders[i]? with
    | some (.manager m), some x => h.derive i (.manager (m.withAdapter x.adapter))
    | _, _ => h
  | .verifier i =>
    match h.holders[i]? with
    | some (.manager m) =>
      match (m.verifierWith inner).outcome with
      | .ok v => h.derive i (.verifier v)
      | .error _ => h
    | _ => h
  | .check i now chain authType =>
    match h.holders[i]? with
    | some x => h.checked p i x.adapter now chain authType
    | none => h
  | .verify i now x =>
    match h.holders[i]? with
    | some (.verifier v) => h.verified p i v now x
    | _ => h
  | .install anchors => h.answer (h.session.install anchors)
  | .installConfigured fs c => h.answer (h.session.installConfigured fs c)
  | .fromInstalled =>
    match h.session.fromInstalled with
    | .ok (a, s) => h.add (.alone a) s
    | .error _ => h

/-- The history after operations from the start of a session. -/
def run (p : Provider) (inner : RootStore → ServerVerifier) (ops : List Operation) : History :=
  ops.foldl (step p inner) {}

def Related (h : History) (i j : Nat) : Prop := Relation.EqvGen (fun i j => (i, j) ∈ h.derived) i j

def Reachable (p : Provider) (inner : RootStore → ServerVerifier) (h : History) : Prop :=
  ∃ ops, h = run p inner ops

/-! ## Moves -/

/-- How an attempt at installing is answered with `r`, and leaves the session as `s'`. -/
structure Answered (s : Session) (r : Except TrustError TrustAnchors) (s' : Session) : Prop where
  session : s' = { s with installed := s.installed <|> r.toOption }
  refused : ∀ a, s.installed = some a → r.toOption = none

/-- What an operation does that asks the adapter `who`. -/
inductive Move (p : Provider) (h : History) : (who : Option Nat) → History → Prop
  | stay {who : Option Nat} : Move p h who h
  | answer {who : Option Nat} (r : Logged TrustAnchors × Session)
      (hr : Answered h.session r.1.outcome r.2) : Move p h who (h.answer r)
  /-- A holder with an account of its own. -/
  | found {who : Option Nat} (x : Holder) (haccount : x.adapter.account = h.session.accounts.length) :
      Move p h who (h.add x { h.session with accounts := h.session.accounts ++ [{}] })
  | derive {who : Option Nat} (i : Nat) (x y : Holder) (hi : h.holders[i]? = some x)
      (haccount : y.adapter.account = x.adapter.account) : Move p h who (h.derive i y)
  | call (k : Call) (x : Holder) (v : Verdict) (hi : h.holders[k.through]? = some x)
      (hadapter : k.adapter = x.adapter) (hv : ∀ c, v.raises c = if k.belongs p c then 1 else 0) :
      Move p h (some k.through)
        { h with session := h.session.record x.adapter v, calls := h.calls ++ [k] }

variable {p : Provider} {inner : RootStore → ServerVerifier} {h : History} {who : Option Nat}

/-- A call counts in the counters it belongs to, each once. -/
theorem raises_ofOutcome {k : Call} {r : Except TrustError Bool} (hr : k.outcome? p = some r)
    (c : Counter) : (Verdict.ofOutcome r).raises c = if k.belongs p c then 1 else 0 := by
  unfold Call.belongs
  rw [hr]
  rcases r with e | _ | _ <;> cases c <;> rfl

theorem raises_empty {k : Call} (hk : k.outcome? p = none) (c : Counter) :
    Verdict.empty.raises c = if k.belongs p c then 1 else 0 := by
  unfold Call.belongs
  rw [hk]
  cases c <;> rfl

theorem move_checked (p : Provider) {i : Nat} {x : Holder} (hi : h.holders[i]? = some x)
    (now : Instant) (chain : List Certificate) (authType : String) :
    Move p h (some i) (h.checked p i x.adapter now chain authType) := by
  cases chain with
  | nil => exact .call ⟨i, x.adapter, now, []⟩ x .empty hi rfl (raises_empty rfl)
  | cons leaf rest =>
    unfold checked
    rw [(h.session.isTrusted_cons p now x.adapter leaf rest authType).2]
    exact .call ⟨i, x.adapter, now, leaf :: rest⟩ x _ hi rfl (raises_ofOutcome rfl)

theorem move_verified (p : Provider) {i : Nat} {v : SupplementaryVerifier}
    (hi : h.holders[i]? = some (.verifier v)) (now : Instant) (x : Presentation) :
    Move p h (some i) (h.verified p i v now x) := by
  unfold verified
  rcases hleaf : Certificate.ofDer x.leaf with fault | leaf
  · rw [(SupplementaryVerifier.verifyCertificate_of_undecodable hleaf).2,
      SupplementaryVerifier.presentedChain_of_undecodable hleaf]
    rw [Option.map_none, Option.toList_none, List.append_nil]
    exact .stay
  · obtain ⟨events, rest, hchain⟩ := SupplementaryVerifier.presentedChain_of_ofDer hleaf
    rw [(SupplementaryVerifier.verifyCertificate_of_ofDer hleaf).2, hchain]
    exact .call ⟨i, v.adapter, now, leaf :: rest⟩ (.verifier v) _ hi rfl (raises_ofOutcome rfl)

theorem answered_error (s : Session) (e : TrustError) : Answered s (.error e) s where
  session := by
    obtain ⟨accounts, installed⟩ := s
    cases installed <;> rfl
  refused _ _ := rfl

theorem install_answered (s : Session) (anchors : TrustAnchors) :
    Answered s (s.install anchors).1.outcome (s.install anchors).2 := by
  unfold Session.install
  rcases hs : s.installed with _ | a
  · exact ⟨by rw [hs]; rfl, fun _ ha => nomatch hs.symm.trans ha⟩
  · exact answered_error s _

theorem installConfigured_answered (fs : FileSystem) (s : Session) (c : TrustConfig) :
    Answered s (s.installConfigured fs c).1.outcome (s.installConfigured fs c).2 := by
  unfold Session.installConfigured
  split
  · exact answered_error s _
  · simp only
    split
    · exact answered_error s _
    · exact install_answered s _

/-- **What an operation does** is one of five moves. -/
theorem step_move (p : Provider) (inner : RootStore → ServerVerifier) (h : History)
    (op : Operation) : Move p h op.asks? (h.step p inner op) := by
  cases op with
  | create anchors => exact .found (.alone _) rfl
  | manage anchors settings => exact .found (.manager _) rfl
  | clone i =>
    simp only [step]
    split
    · rename_i x hi
      exact .derive i x _ hi rfl
    · exact .stay
  | withValidator i v =>
    simp only [step]
    split
    · rename_i x hi
      exact .derive i x _ hi rfl
    · exact .stay
  | withAdapter m i =>
    simp only [step]
    split
    · rename_i x _ hi
      exact .derive i x _ hi rfl
    · exact .stay
  | verifier i =>
    simp only [step]
    split
    · rename_i m hi
      split
      · rename_i v hv
        rw [TrustManager.verifierWith_eq_ok hv]
        exact .derive i _ _ hi rfl
      · exact .stay
    · exact .stay
  | check i now chain authType =>
    simp only [step]
    split
    · rename_i x hi
      exact move_checked p hi now chain authType
    · exact .stay
  | verify i now x =>
    simp only [step]
    split
    · rename_i v hi
      exact move_verified p hi now x
    · exact .stay
  | install anchors => exact .answer _ (install_answered _ _)
  | installConfigured fs c => exact .answer _ (installConfigured_answered fs _ c)
  | fromInstalled =>
    simp only [step, Session.fromInstalled]
    split
    · rename_i a s hs
      split at hs
      · cases hs
      · cases hs
        exact .found (.alone _) rfl
    · exact .stay

/-- What every move keeps, operations keep. -/
theorem foldl_step {P : History → Prop} (hP : ∀ h who h', Move p h who h' → P h → P h') (hh : P h)
    (ops : List Operation) : P (ops.foldl (step p inner) h) := by
  induction ops generalizing h with
  | nil => exact hh
  | cons op ops ih => exact ih (hP h _ _ (step_move p inner h op) hh)

theorem run_append (ops more : List Operation) :
    run p inner (ops ++ more) = more.foldl (step p inner) (run p inner ops) :=
  List.foldl_append

end History

end ChainOfTrust
