import ChainOfTrust.Proofs.Session.Accounts
import ChainOfTrust.Proofs.Store.Loading

/-!
# Anchors are installed once

A session installs anchors at most once, and every adapter made from them keeps them.

* `Session.configured` : what a configuration gives to be installed;
* `Session.install_of_taken`, `Session.installConfigured_of_taken`, `Session.fromInstalled_of_taken`, and
  `…_of_empty` : how an attempt ends when anchors are installed, and when there are none;
* `Move.unchanged_or_answered` : what a move does to the installed anchors, hence what every move
  keeps of them (`Move.installs`, `Move.installed`);
* `Stands` : an adapter made from the installed anchors, at any later time;
* `installs_once` : the installed anchors are those of the first attempt that succeeds, from then on.
-/

namespace ChainOfTrust

set_option autoImplicit false

/-! ## Attempts -/

namespace Session

variable {s : Session} {a : TrustAnchors}

/-- The anchors of the store that a configuration names, or why there are none. -/
def configured (fs : FileSystem) (c : TrustConfig) : Except TrustError TrustAnchors := do
  c.validate
  (TrustAnchors.ofConfig fs c.store).outcome

theorem configured_ne_alreadyInitialized (fs : FileSystem) (c : TrustConfig) :
    configured fs c ≠ .error .alreadyInitialized := by
  intro hc
  unfold configured TrustConfig.validate at hc
  split at hc
  · cases hc
  · obtain ⟨fault, hfault⟩ := TrustAnchors.ofConfig_failsInStore fs c.store _ hc
    cases hfault

theorem installConfigured_outcome (fs : FileSystem) (s : Session) (c : TrustConfig) :
    (s.installConfigured fs c).1.outcome =
      (configured fs c).bind fun anchors => (s.install anchors).1.outcome := by
  unfold installConfigured configured
  rcases c.validate with e | ⟨⟩
  · rfl
  · simp only
    split
    · rename_i e he
      simp only [he]
      rfl
    · rename_i anchors hanchors
      simp only [hanchors]
      rfl

theorem install_of_empty (hs : s.installed = none) (anchors : TrustAnchors) :
    (s.install anchors).1.outcome = .ok anchors := by
  unfold install
  rw [hs]

theorem install_of_taken (hs : s.installed = some a) (anchors : TrustAnchors) :
    (s.install anchors).1.outcome = .error .alreadyInitialized := by
  unfold install
  rw [hs]

theorem installConfigured_of_empty (hs : s.installed = none) (fs : FileSystem) (c : TrustConfig) :
    (s.installConfigured fs c).1.outcome = configured fs c := by
  rw [installConfigured_outcome]
  rcases configured fs c with e | anchors
  · rfl
  · exact install_of_empty hs anchors

theorem installConfigured_of_taken (hs : s.installed = some a) (fs : FileSystem) (c : TrustConfig) :
    (s.installConfigured fs c).1.outcome =
      (configured fs c).bind fun _ => .error .alreadyInitialized := by
  rw [installConfigured_outcome]
  rcases configured fs c with e | anchors
  · rfl
  · exact install_of_taken hs anchors

theorem installConfigured_alreadyInitialized_iff (hs : s.installed = some a) (fs : FileSystem)
    (c : TrustConfig) :
    (s.installConfigured fs c).1.outcome = .error .alreadyInitialized ↔
      ∃ anchors, configured fs c = .ok anchors := by
  rw [installConfigured_of_taken hs]
  have hne := configured_ne_alreadyInitialized fs c
  rcases hc : configured fs c with e | anchors
  · rw [hc] at hne
    exact ⟨fun he => absurd he hne, fun ⟨_, ho⟩ => nomatch ho⟩
  · exact ⟨fun _ => ⟨anchors, rfl⟩, fun _ => rfl⟩

theorem fromInstalled_of_empty (hs : s.installed = none) :
    s.fromInstalled = .error (.configuration .noGlobalAnchors) := by
  unfold fromInstalled
  rw [hs]

theorem fromInstalled_of_taken (hs : s.installed = some a) :
    s.fromInstalled = .ok (s.adapter a) := by
  unfold fromInstalled
  rw [hs]

theorem stats_adapter (s : Session) (anchors : TrustAnchors) :
    (s.adapter anchors).2.stats (s.adapter anchors).1 = {} := by
  show (s.accounts ++ [_]).getD s.accounts.length _ = _
  rw [List.getD_eq_getElem?_getD, List.getElem?_concat_length]
  rfl

end Session

namespace History

variable {p : Provider} {inner : RootStore → ServerVerifier} {h h' : History}
variable {who : Option Nat} {a : TrustAdapter} {anchors : TrustAnchors}

theorem Answered.eq_of_error {s s' : Session} {e : TrustError} (hr : Answered s (.error e) s') :
    s' = s :=
  hr.session.trans (answered_error s e).session.symm

/-! ## Moves -/

/-- Only an answer to an attempt touches the installed anchors. -/
theorem Move.unchanged_or_answered (hmove : Move p h who h') :
    h'.session.installed = h.session.installed ∧ h'.installs = h.installs ∨
      ∃ r, Answered h.session r h'.session ∧ h'.installs = h.installs ++ [r] := by
  cases hmove with
  | stay => exact Or.inl ⟨rfl, rfl⟩
  | answer r hr => exact Or.inr ⟨r.1.outcome, hr, rfl⟩
  | found x haccount => exact Or.inl ⟨rfl, rfl⟩
  | derive i x y hi haccount => exact Or.inl ⟨rfl, rfl⟩
  | call k x v hi hadapter hv => exact Or.inl ⟨rfl, rfl⟩

/-- Attempts that succeed are none or one, and that one gives what is installed. -/
theorem Move.installs (hmove : Move p h who h')
    (hh : h.installs.filterMap Except.toOption = h.session.installed.toList) :
    h'.installs.filterMap Except.toOption = h'.session.installed.toList := by
  rcases hmove.unchanged_or_answered with ⟨hinstalled, hinstalls⟩ | ⟨r, hr, hinstalls⟩
  · rw [hinstalled, hinstalls, hh]
  · rw [hinstalls, List.filterMap_append, hh, hr.session]
    rcases hs : h.session.installed with _ | anchors
    · rcases r with e | anchors <;> rfl
    · rw [List.filterMap_cons, hr.refused anchors hs]
      rfl

theorem Move.installed (hmove : Move p h who h') (hh : h.session.installed = some anchors) :
    h'.session.installed = some anchors := by
  rcases hmove.unchanged_or_answered with ⟨hinstalled, -⟩ | ⟨r, hr, -⟩
  · rw [hinstalled, hh]
  · rw [hr.session, hh]
    rfl

theorem Move.holders (hmove : Move p h who h') : h.holders <+: h'.holders := by
  cases hmove with
  | stay => exact List.prefix_rfl
  | answer r hr => exact List.prefix_rfl
  | found x haccount => exact List.prefix_append _ _
  | derive i x y hi haccount => exact List.prefix_append _ _
  | call k x v hi hadapter hv => exact List.prefix_rfl

theorem installed_foldl (hh : h.session.installed = some anchors) (ops : List Operation) :
    (ops.foldl (step p inner) h).session.installed = some anchors :=
  foldl_step (fun _ _ _ hmove hh => hmove.installed hh) hh ops

theorem holders_foldl (h : History) (ops : List Operation) :
    h.holders <+: (ops.foldl (step p inner) h).holders :=
  foldl_step (P := fun h' => h.holders <+: h'.holders)
    (fun _ _ _ hmove hh => hh.trans hmove.holders) List.prefix_rfl ops

theorem Reachable.installs (hr : Reachable p inner h) :
    h.installs.filterMap Except.toOption = h.session.installed.toList := by
  obtain ⟨ops, rfl⟩ := hr
  exact foldl_step (fun h who h' hmove hh => hmove.installs hh) rfl ops

/-! ## Adapters over the installed anchors -/

/-- The holder `n` is the adapter `a` over the installed anchors; its statistics are those of calls
through itself and what was made from it, so no older holder counts in them. -/
structure Stands (p : Provider) (h : History) (n : Nat) (a : TrustAdapter) : Prop where
  holder : h.holders[n]? = some (.alone a)
  installed : h.session.installed = some a.anchors
  stats : ∀ c, (h.session.stats a).read c = .ofNat (h.countThrough p n c)
  own : ∀ j, h.Related j n → n ≤ j

/-- An older holder has an account that was there before. -/
theorem Kept.stands (k : Kept p h) (k' : Kept p h') (hholders : h.holders <+: h'.holders)
    (haccount : a.account = h.session.accounts.length)
    (ha : h'.holders[h.holders.length]? = some (.alone a))
    (hinstalled : h'.session.installed = some a.anchors) : Stands p h' h.holders.length a where
  holder := ha
  installed := hinstalled
  stats c := k'.stats_eq ha c
  own j hj := by
    by_contra hlt
    rw [Nat.not_le] at hlt
    have hold : h'.account? j = h.account? j := by
      obtain ⟨rest, hrest⟩ := hholders
      unfold account?
      rw [← hrest, List.getElem?_append_left hlt]
    have hsame := k'.account_eq hj
    rw [hold, account?_eq_some_iff.mpr ⟨_, ha, rfl⟩] at hsame
    have := k.account_lt j _ hsame
    exact absurd haccount (Nat.ne_of_lt this)

theorem step_fromInstalled (hh : h.session.installed = some anchors) :
    h.step p inner .fromInstalled =
      h.add (.alone (h.session.adapter anchors).1) (h.session.adapter anchors).2 := by
  simp only [step, Session.fromInstalled_of_taken hh]

theorem stands_of_fromInstalled {ops : List Operation}
    (hh : (run p inner ops).session.installed = some anchors) (more : List Operation) :
    Stands p (run p inner (ops ++ .fromInstalled :: more)) (run p inner ops).holders.length
      ((run p inner ops).session.adapter anchors).1 := by
  obtain ⟨rest, hrest⟩ : (run p inner ops).holders ++ [.alone _] <+:
      (run p inner (ops ++ .fromInstalled :: more)).holders := by
    rw [run_append, List.foldl_cons, step_fromInstalled hh]
    exact holders_foldl ((run p inner ops).add _ _) more
  refine Kept.stands (Reachable.kept ⟨ops, rfl⟩) (Reachable.kept ⟨_, rfl⟩) ?_ rfl ?_ ?_
  · rw [← hrest, List.append_assoc]
    exact List.prefix_append _ _
  · rw [← hrest, List.getElem?_append_left (by rw [List.length_append]; exact Nat.lt_succ_self _),
      List.getElem?_concat_length]
  · rw [run_append]
    exact installed_foldl hh _

/-! ## A whole session -/

/-- **Anchors are installed at most once, by the first attempt that succeeds, and then stay.** An
attempt that fails changes nothing; one that comes later fails by its own fault or else for this
reason. An adapter is made from the anchors if they are there, and keeps them with statistics of its
own. -/
theorem installs_once (p : Provider) (inner : RootStore → ServerVerifier) (ops : List Operation) :
    let h := run p inner ops
    (h.session.installed = h.installs.findSome? Except.toOption ∧
      (h.installs.filterMap Except.toOption).length ≤ 1 ∧
      ∀ anchors, h.session.installed = some anchors →
        ∀ more, (run p inner (ops ++ more)).session.installed = some anchors) ∧
    (∀ e,
      (∀ anchors, (h.session.install anchors).1.outcome = .error e →
        (h.session.install anchors).2 = h.session) ∧
      ∀ fs c, (h.session.installConfigured fs c).1.outcome = .error e →
        (h.session.installConfigured fs c).2 = h.session) ∧
    (h.session.installed = none →
      (∀ anchors, (h.session.install anchors).1.outcome = .ok anchors) ∧
      ∀ fs c, (h.session.installConfigured fs c).1.outcome = Session.configured fs c) ∧
    (∀ anchors, h.session.installed = some anchors →
      (∀ others, (h.session.install others).1.outcome = .error .alreadyInitialized) ∧
      ∀ fs c,
        ((h.session.installConfigured fs c).1.outcome = .error .alreadyInitialized ↔
          ∃ others, Session.configured fs c = .ok others) ∧
        ∀ e, Session.configured fs c = .error e →
          (h.session.installConfigured fs c).1.outcome = .error e) ∧
    (h.session.installed = none →
      h.session.fromInstalled = .error (.configuration .noGlobalAnchors)) ∧
    ∀ anchors, h.session.installed = some anchors →
      ∃ a s, h.session.fromInstalled = .ok (a, s) ∧ a.anchors = anchors ∧ s.stats a = {} ∧
        ∀ more, Stands p (run p inner (ops ++ .fromInstalled :: more)) h.holders.length a := by
  intro h
  have hinstalls : h.installs.filterMap Except.toOption = h.session.installed.toList :=
    Reachable.installs ⟨ops, rfl⟩
  refine ⟨⟨?_, ?_, fun anchors hh more => ?_⟩, fun e => ⟨fun anchors he => ?_, fun fs c he => ?_⟩,
    fun hh => ⟨Session.install_of_empty hh, Session.installConfigured_of_empty hh⟩,
    fun anchors hh => ⟨Session.install_of_taken hh, fun fs c => ⟨?_, fun e he => ?_⟩⟩,
    Session.fromInstalled_of_empty, fun anchors hh => ?_⟩
  · rw [← List.head?_filterMap, hinstalls, Option.head?_toList]
  · rw [hinstalls]
    cases h.session.installed <;> simp
  · rw [run_append]
    exact installed_foldl hh more
  · exact (he ▸ install_answered h.session anchors).eq_of_error
  · exact (he ▸ installConfigured_answered fs h.session c).eq_of_error
  · exact Session.installConfigured_alreadyInitialized_iff hh fs c
  · rw [Session.installConfigured_of_taken hh, he]
    rfl
  · exact ⟨_, _, Session.fromInstalled_of_taken hh, rfl, h.session.stats_adapter anchors,
      stands_of_fromInstalled hh⟩

/-! ## A session with refusals -/

/-- Two configurations that cannot be used, before and after an installation, and a second one. -/
def refusals : List Operation :=
  [.installConfigured ⟨.directory [], []⟩ {}, .fromInstalled, .install ⟨[rootCertificate]⟩,
    .install ⟨[]⟩, .installConfigured ⟨.directory [], []⟩ (.pemBundle "roots.pem")]

def refusalsHistory : History :=
  run .standard (fun store => .pathVerifier .standard store.roots) refusals

theorem installs_refusals :
    refusalsHistory.installs = [.error (.configuration .emptyPath), .ok ⟨[rootCertificate]⟩,
        .error .alreadyInitialized, .error (.trustStore (.unreadable "roots.pem" .notFound))] ∧
      refusalsHistory.session.installed = some ⟨[rootCertificate]⟩ ∧
      ∃ a s, refusalsHistory.session.fromInstalled = .ok (a, s) ∧
        a.anchors = ⟨[rootCertificate]⟩ ∧ s.stats a = {} := by
  have hinstalled : refusalsHistory.session.installed = some ⟨[rootCertificate]⟩ := rfl
  obtain ⟨-, -, -, -, -, hmade⟩ := installs_once .standard
    (fun store => .pathVerifier .standard store.roots) refusals
  obtain ⟨a, s, ha, hanchors, hstats, -⟩ := hmade _ hinstalled
  exact ⟨rfl, hinstalled, a, s, ha, hanchors, hstats⟩

end History

end ChainOfTrust
