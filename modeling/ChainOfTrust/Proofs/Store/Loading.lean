import ChainOfTrust.Anchors

/-!
# How loading a store fails

* `Logged.FailsInStore` : work that fails, if it does, by a fault of a store; work in several steps
  does if each step does;
* `TrustAnchors.ofConfig_failsInStore` : loading a configured store is such work, whatever the files.
-/

namespace ChainOfTrust

set_option autoImplicit false

namespace Logged

variable {α β : Type} {x : Logged α}

theorem outcome_bind (x : Logged α) (f : α → Logged β) :
    (x >>= f).outcome = x.outcome.bind fun a => (f a).outcome := by
  rcases hx : x.outcome with e | a
  · rw [bind_error hx]
    rfl
  · rw [bind_ok hx]
    rfl

def FailsInStore (x : Logged α) : Prop :=
  ∀ e, x.outcome = .error e → ∃ fault, e = .trustStore fault

theorem failsInStore_error (events : List Event) (fault : StoreFault) :
    FailsInStore (⟨events, .error (.trustStore fault)⟩ : Logged α) := by
  intro e he
  cases he
  exact ⟨fault, rfl⟩

theorem failsInStore_ok (events : List Event) (a : α) :
    FailsInStore (⟨events, .ok a⟩ : Logged α) := by
  intro e he
  cases he

theorem FailsInStore.after (hx : x.FailsInStore) (events : List Event) :
    (x.after events).FailsInStore := hx

theorem FailsInStore.bind (hx : x.FailsInStore) {f : α → Logged β}
    (hf : ∀ a, (f a).FailsInStore) : (x >>= f).FailsInStore := by
  intro e he
  rw [outcome_bind] at he
  rcases ha : x.outcome with e' | a
  · rw [ha] at he
    cases he
    exact hx e ha
  · rw [ha] at he
    exact hf a e he

theorem FailsInStore.map (hx : x.FailsInStore) (f : α → β) : (x.map f).FailsInStore := by
  intro e he
  unfold Logged.map at he
  rcases ha : x.outcome with e' | a
  · rw [ha] at he
    cases he
    exact hx e ha
  · rw [ha] at he
    cases he

end Logged

theorem Pem.certificates_failsInStore (path : String) (blocks : List Pem.Block) :
    (Pem.certificates path blocks).FailsInStore := by
  induction blocks with
  | nil => exact Logged.failsInStore_ok _ _
  | cons b blocks ih =>
    unfold Pem.certificates
    split
    · exact ih.after _
    · split
      · exact Logged.failsInStore_error _ _
      · exact ih.map _

theorem Pem.readBundle_failsInStore (path : String) (data : Bytes) :
    (Pem.readBundle path data).FailsInStore := by
  unfold Pem.readBundle
  split
  · exact Logged.failsInStore_error _ _
  · exact Pem.certificates_failsInStore path _

namespace StoreSource

theorem loadFiles_failsInStore (fs : FileSystem) (dir : String) (names : List String) :
    (loadFiles fs dir names).FailsInStore := by
  induction names with
  | nil => exact Logged.failsInStore_ok _ _
  | cons name names ih =>
    unfold loadFiles
    simp only
    split
    · exact Logged.failsInStore_error _ _
    · exact (Pem.readBundle_failsInStore _ _).bind fun here =>
        ih.bind fun others => Logged.failsInStore_ok _ _

theorem load_failsInStore (fs : FileSystem) (source : StoreSource) :
    (source.load fs).FailsInStore := by
  cases source with
  | bundle path =>
    simp only [load]
    split
    · exact Logged.failsInStore_error _ _
    · exact Pem.readBundle_failsInStore path _
  | directory dir =>
    simp only [load]
    split
    · exact Logged.failsInStore_error _ _
    · exact (loadFiles_failsInStore fs dir _).after _

end StoreSource

/-- **Loading a configured store** fails, if it does, by a fault of the store. -/
theorem TrustAnchors.ofConfig_failsInStore (fs : FileSystem) (c : StoreConfig) :
    (TrustAnchors.ofConfig fs c).FailsInStore :=
  (StoreSource.load_failsInStore fs (.ofConfig c)).bind fun _ =>
    (Logged.failsInStore_ok _ _).bind fun _ => Logged.failsInStore_ok _ _

end ChainOfTrust
