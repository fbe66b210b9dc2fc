import Mathlib.Data.List.GetD
import ChainOfTrust.Proofs.Session.History

/-!
# What the statistics of a session count

Adapters that are related share an account, and nobody else counts in it.

* `Kept` : the accounts agree with the calls, and account by account with the related holders;
* `Kept.move`, `Reachable.kept` : every move keeps them so, and so does a whole session;
* `countThrough i c` : how many calls through adapters related to `i` belong to the counter `c`;
* `snapshot_counts_calls` : the statistics of an adapter are these numbers.
-/

namespace ChainOfTrust.History

set_option autoImplicit false

variable {p : Provider} {inner : RootStore → ServerVerifier} {h h' : History}
variable {x y : Holder} {i j n : Nat} {who : Option Nat}

/-! ## Accounts of holders -/

def account? (h : History) (i : Nat) : Option Nat := h.holders[i]?.map fun x => x.adapter.account

theorem account?_eq_some_iff :
    h.account? i = some n ↔ ∃ x, h.holders[i]? = some x ∧ x.adapter.account = n := by
  unfold account?
  exact Option.map_eq_some_iff

/-- The accounts agree with the calls that were made and with who is related to whom. -/
structure Kept (p : Provider) (h : History) : Prop where
  account_lt : ∀ i n, h.account? i = some n → n < h.session.accounts.length
  derived : ∀ i j, (i, j) ∈ h.derived → ∃ n, h.account? i = some n ∧ h.account? j = some n
  related : ∀ i j n, h.account? i = some n → h.account? j = some n → h.Related i j
  calls : ∀ k ∈ h.calls, h.account? k.through = some k.adapter.account
  counted : ∀ n < h.session.accounts.length, ∀ c, (h.session.accounts.getD n {}).read c =
    .ofNat (h.calls.countP fun k => k.adapter.account = n ∧ k.belongs p c)

theorem kept_start (p : Provider) : Kept p {} where
  account_lt _ _ hi := nomatch hi
  derived _ _ hij := nomatch hij
  related _ _ _ hi := nomatch hi
  calls _ hk := nomatch hk
  counted _ hn := nomatch hn

/-- Related adapters have one account. -/
theorem Kept.account_eq (k : Kept p h) (hij : h.Related i j) : h.account? i = h.account? j := by
  unfold Related at hij
  induction hij with
  | rel i j hij =>
    obtain ⟨n, hi, hj⟩ := k.derived i j hij
    rw [hi, hj]
  | refl i => rfl
  | symm i j _ ih => exact ih.symm
  | trans i j l _ _ ih ih' => exact ih.trans ih'

/-! ## One more holder -/

theorem account?_concat (hh : h'.holders = h.holders ++ [x]) (i : Nat) :
    h'.account? i = if i = h.holders.length then some x.adapter.account else h.account? i := by
  unfold account?
  rw [hh]
  by_cases hi : i = h.holders.length
  · rw [if_pos hi, hi, List.getElem?_concat_length]
    rfl
  · rw [if_neg hi]
    rcases Nat.lt_or_gt_of_ne hi with hlt | hgt
    · rw [List.getElem?_append_left hlt]
    · rw [List.getElem?_eq_none (by rw [List.length_append, List.length_singleton]; omega),
        List.getElem?_eq_none (by omega)]

theorem lt_of_account?_eq_some (hi : h.account? i = some n) : i < h.holders.length := by
  obtain ⟨x, hx, -⟩ := account?_eq_some_iff.mp hi
  exact (List.getElem?_eq_some_iff.mp hx).1

theorem account?_of_old (hh : h'.holders = h.holders ++ [x]) (hi : h.account? i = some n) :
    h'.account? i = some n := by
  rw [account?_concat hh, if_neg (Nat.ne_of_lt (lt_of_account?_eq_some hi)), hi]

theorem account?_of_new (hh : h'.holders = h.holders ++ [x]) (hi : h'.account? i = some n) :
    i = h.holders.length ∧ x.adapter.account = n ∨ h.account? i = some n := by
  rw [account?_concat hh] at hi
  split at hi
  · rename_i hlast
    exact Or.inl ⟨hlast, Option.some.inj hi⟩
  · exact Or.inr hi

theorem Related.mono (hsub : ∀ e ∈ h.derived, e ∈ h'.derived) (hij : h.Related i j) :
    h'.Related i j :=
  Relation.EqvGen.mono (fun i j => hsub (i, j)) i j hij

/-! ## Moves -/

theorem Kept.found (k : Kept p h) (x : Holder)
    (haccount : x.adapter.account = h.session.accounts.length) :
    Kept p (h.add x { h.session with accounts := h.session.accounts ++ [{}] }) where
  account_lt i n hi := by
    show n < (h.session.accounts ++ [_]).length
    rw [List.length_append, List.length_singleton]
    rcases account?_of_new (h := h) rfl hi with ⟨-, hx⟩ | hi
    · omega
    · exact Nat.lt_succ_of_lt (k.account_lt i n hi)
  derived i j hij := by
    obtain ⟨n, hi, hj⟩ := k.derived i j hij
    exact ⟨n, account?_of_old rfl hi, account?_of_old rfl hj⟩
  related i j n hi hj := by
    -- nobody else has the new account
    have hnew : ∀ l, h.account? l = some n → x.adapter.account ≠ n := by
      intro l hl hx
      have := k.account_lt l n hl
      omega
    rcases account?_of_new (h := h) rfl hi with ⟨rfl, hxi⟩ | hi'
    · rcases account?_of_new (h := h) rfl hj with ⟨rfl, -⟩ | hj'
      · exact .refl _
      · exact absurd hxi (hnew j hj')
    · rcases account?_of_new (h := h) rfl hj with ⟨-, hxj⟩ | hj'
      · exact absurd hxj (hnew i hi')
      · exact k.related i j n hi' hj'
  calls l hl := account?_of_old rfl (k.calls l hl)
  counted n hn c := by
    have hn : n < (h.session.accounts ++ [_]).length := hn
    rw [List.length_append, List.length_singleton] at hn
    show ((h.session.accounts ++ [_]).getD n _).read c = _
    rcases Nat.lt_succ_iff_lt_or_eq.mp hn with hlt | rfl
    · rw [List.getD_append _ _ _ _ hlt]
      exact k.counted n hlt c
    · -- no call was made on the new account
      have hnone : h.calls.countP (fun l => l.adapter.account = h.session.accounts.length ∧
          l.belongs p c) = 0 := by
        rw [List.countP_eq_zero]
        intro l hl hl'
        have := k.account_lt _ _ (k.calls l hl)
        simp only [decide_eq_true_eq] at hl'
        omega
      rw [List.getD_append_right _ _ _ _ (Nat.le_refl _), Nat.sub_self]
      show TrustStats.read {} c = .ofNat (h.calls.countP _)
      rw [hnone]
      cases c <;> rfl

theorem Kept.derive (k : Kept p h) (x y : Holder) (hi : h.holders[i]? = some x)
    (haccount : y.adapter.account = x.adapter.account) : Kept p (h.derive i y) where
  account_lt j n hj := by
    rcases account?_of_new (h := h) rfl hj with ⟨-, rfl⟩ | hj
    · exact k.account_lt i _ (account?_eq_some_iff.mpr ⟨x, hi, haccount.symm⟩)
    · exact k.account_lt j n hj
  derived j l hjl := by
    rcases List.mem_append.mp hjl with hjl | hjl
    · obtain ⟨n, hj, hl⟩ := k.derived j l hjl
      exact ⟨n, account?_of_old rfl hj, account?_of_old rfl hl⟩
    · obtain ⟨rfl, rfl⟩ := Prod.mk.inj (List.mem_singleton.mp hjl)
      refine ⟨x.adapter.account, account?_of_old rfl (account?_eq_some_iff.mpr ⟨x, hi, rfl⟩), ?_⟩
      rw [account?_concat (h := h) rfl, if_pos rfl, haccount]
  related j l n hj hl := by
    have hold : ∀ a b, h.Related a b → (h.derive i y).Related a b :=
      fun a b hab => hab.mono fun e he => List.mem_append_left _ he
    have hnew : (h.derive i y).Related i h.holders.length :=
      .rel _ _ (List.mem_append_right _ List.mem_cons_self)
    -- who has the account of the new holder is related to the one it was made from
    have hfrom : ∀ a, h.account? a = some n → y.adapter.account = n → h.Related a i := by
      intro a ha hy
      exact k.related a i n ha (account?_eq_some_iff.mpr ⟨x, hi, by rw [← haccount, hy]⟩)
    rcases account?_of_new (h := h) rfl hj with ⟨rfl, hyj⟩ | hj'
    · rcases account?_of_new (h := h) rfl hl with ⟨rfl, -⟩ | hl'
      · exact .refl _
      · exact .symm _ _ (.trans _ _ _ (hold _ _ (hfrom l hl' hyj)) hnew)
    · rcases account?_of_new (h := h) rfl hl with ⟨rfl, hyl⟩ | hl'
      · exact .trans _ _ _ (hold _ _ (hfrom j hj' hyl)) hnew
      · exact hold j l (k.related j l n hj' hl')
  calls l hl := account?_of_old rfl (k.calls l hl)
  counted := k.counted

theorem read_record (s : Session) (a : TrustAdapter) (v : Verdict)
    (hn : n < s.accounts.length) (c : Counter) :
    ((s.record a v).accounts.getD n {}).read c =
      (s.accounts.getD n {}).read c + if a.account = n then v.raises c else 0 := by
  rw [Session.record_eq_raise]
  unfold Session.raise
  rw [List.getD_eq_getElem?_getD, List.getElem?_modify, List.getD_eq_getElem?_getD,
    List.getElem?_eq_getElem hn]
  by_cases ha : a.account = n
  · simp [ha, TrustStats.read_raise]
  · simp [ha]

theorem Kept.call (k : Kept p h) (l : Call) (x : Holder) (v : Verdict)
    (hi : h.holders[l.through]? = some x) (hadapter : l.adapter = x.adapter)
    (hv : ∀ c, v.raises c = if l.belongs p c then 1 else 0) :
    Kept p { h with session := h.session.record x.adapter v, calls := h.calls ++ [l] } where
  account_lt i n hn := by
    show n < (h.session.accounts.modify _ _).length
    rw [List.length_modify]
    exact k.account_lt i n hn
  derived := k.derived
  related := k.related
  calls m hm := by
    rcases List.mem_append.mp hm with hm | hm
    · exact k.calls m hm
    · rw [List.mem_singleton.mp hm]
      exact account?_eq_some_iff.mpr ⟨x, hi, by rw [hadapter]⟩
  counted n hn c := by
    have hn : n < (h.session.accounts.modify _ _).length := hn
    rw [List.length_modify] at hn
    show ((h.session.record x.adapter v).accounts.getD n _).read c =
      .ofNat ((h.calls ++ [l]).countP _)
    rw [read_record _ _ _ hn, k.counted n hn c, List.countP_append, UInt64.ofNat_add, hv,
      List.countP_singleton, hadapter]
    congr 1
    by_cases hx : x.adapter.account = n <;> by_cases hc : l.belongs p c = true <;> simp [hx, hc]

theorem Kept.move (k : Kept p h) (hmove : Move p h who h') : Kept p h' := by
  cases hmove with
  | stay => exact k
  | answer r hr =>
    have haccounts : (h.answer r).session.accounts = h.session.accounts := by rw [answer, hr.session]
    exact ⟨haccounts ▸ k.account_lt, k.derived, k.related, k.calls, haccounts ▸ k.counted⟩
  | found x haccount => exact k.found x haccount
  | derive i x y hi haccount => exact k.derive x y hi haccount
  | call l x v hi hadapter hv => exact k.call l x v hi hadapter hv

theorem Reachable.kept (hr : Reachable p inner h) : Kept p h := by
  obtain ⟨ops, rfl⟩ := hr
  exact foldl_step (fun h who h' hmove k => k.move hmove) (kept_start p) ops

/-! ## Statistics -/

open Classical in
noncomputable def countThrough (p : Provider) (h : History) (i : Nat) (c : Counter) : Nat :=
  h.calls.countP fun k => h.Related k.through i ∧ k.belongs p c

theorem Kept.stats_eq (k : Kept p h) (hi : h.holders[i]? = some x) (c : Counter) :
    (h.session.stats x.adapter).read c = .ofNat (h.countThrough p i c) := by
  have hx : h.account? i = some x.adapter.account := account?_eq_some_iff.mpr ⟨x, hi, rfl⟩
  unfold Session.stats countThrough
  rw [k.counted _ (k.account_lt i _ hx) c]
  congr 1
  refine List.countP_congr fun l hl => ?_
  have hrelated : l.adapter.account = x.adapter.account ↔ h.Related l.through i := by
    constructor
    · intro hl'
      exact k.related _ _ _ (by rw [k.calls l hl, hl']) hx
    · intro hrel
      have hsame := k.account_eq hrel
      rw [k.calls l hl, hx] at hsame
      exact Option.some.inj hsame
  simp only [decide_eq_true_eq, hrelated]

/-- Besides the checks, a call belongs to one counter. -/
theorem belongs_once (p : Provider) (k : Call) :
    (if k.belongs p .validated then 1 else 0) + (if k.belongs p .rejected then 1 else 0) +
      (if k.belongs p .empty then 1 else 0) + (if k.belongs p .fatal then 1 else 0) = 1 := by
  unfold Call.belongs
  rcases k.outcome? p with _ | e | _ | _ <;> rfl

theorem countP_belongs (q : Call → Bool) (calls : List Call) :
    calls.countP (fun k => q k && k.belongs p .checks) =
      calls.countP (fun k => q k && k.belongs p .validated) +
        calls.countP (fun k => q k && k.belongs p .rejected) +
        calls.countP (fun k => q k && k.belongs p .empty) +
        calls.countP (fun k => q k && k.belongs p .fatal) := by
  induction calls with
  | nil => rfl
  | cons k calls ih =>
    have honce := belongs_once p k
    have hchecks : k.belongs p .checks = true := rfl
    simp only [List.countP_cons, ih, hchecks]
    cases q k with
    | false => simp
    | true =>
      simp only [Bool.true_and, if_true]
      omega

theorem countThrough_checks (p : Provider) (h : History) (i : Nat) :
    h.countThrough p i .checks = h.countThrough p i .validated + h.countThrough p i .rejected +
      h.countThrough p i .empty + h.countThrough p i .fatal := by
  classical
  have hcount := countP_belongs (p := p) (fun k => decide (h.Related k.through i)) h.calls
  unfold countThrough
  simpa only [Bool.decide_and, Bool.decide_eq_true] using hcount

/-- Who is asked counts for its relations only. -/
theorem Kept.stats_of_unrelated (k : Kept p h) (hmove : Move p h who h')
    (hj : h.holders[j]? = some y) (hwho : ∀ i, who = some i → ¬ h.Related i j) :
    h'.session.stats y.adapter = h.session.stats y.adapter := by
  have hy : h.account? j = some y.adapter.account := account?_eq_some_iff.mpr ⟨y, hj, rfl⟩
  have hlt := k.account_lt j _ hy
  cases hmove with
  | stay => rfl
  | answer r hr =>
    unfold answer
    rw [hr.session]
    rfl
  | found x haccount => exact List.getD_append _ _ _ _ hlt
  | derive i x y hi haccount => rfl
  | call l x v hi hadapter hv =>
    have hne : x.adapter.account ≠ y.adapter.account := by
      intro heq
      refine hwho l.through rfl (k.related _ _ _ ?_ hy)
      exact account?_eq_some_iff.mpr ⟨x, hi, heq⟩
    refine TrustStats.eq_of_read fun c => ?_
    show ((h.session.record x.adapter v).accounts.getD _ _).read c = _
    rw [read_record _ _ _ hlt, if_neg hne, UInt64.add_zero]
    rfl

/-! ## Answers -/

theorem raises_checks (r : Except TrustError Bool) : (Verdict.ofOutcome r).raises .checks = 1 := by
  rcases r with e | _ | _ <;> rfl

theorem Kept.verified_checks (k : Kept p h) {v : SupplementaryVerifier} {x : Presentation}
    (hi : h.holders[i]? = some (.verifier v)) {leaf : Certificate}
    (hleaf : Certificate.ofDer x.leaf = .ok leaf) (now : Instant) :
    ((h.verified p i v now x).session.stats v.adapter).checks =
      (h.session.stats v.adapter).checks + 1 := by
  have hv : h.account? i = some v.adapter.account := account?_eq_some_iff.mpr ⟨_, hi, rfl⟩
  have hsession : (v.verifyCertificate p now h.session x).session =
      h.session.record v.adapter (.ofOutcome (v.adapter.climb p now leaf).outcome) :=
    (SupplementaryVerifier.verifyCertificate_of_ofDer hleaf).2
  have hread := read_record h.session v.adapter
    (.ofOutcome (v.adapter.climb p now leaf).outcome) (k.account_lt i _ hv) .checks
  rw [if_pos rfl, raises_checks] at hread
  unfold verified Session.stats
  rw [hsession]
  exact hread

theorem isTrusted_outcome (p : Provider) (now : Instant) (s : Session) (a : TrustAdapter)
    (chain : List Certificate) (authType : String) (i : Nat) :
    (s.isTrusted p now a chain authType).1.outcome =
      match Call.outcome? p ⟨i, a, now, chain⟩ with
      | some (.error e) => .error e
      | _ => .ok false := by
  cases chain with
  | nil => rfl
  | cons leaf rest =>
    rw [(s.isTrusted_cons p now a leaf rest authType).1]
    show Except.map _ (a.climb p now leaf).outcome = match some (a.climb p now leaf).outcome with
      | some (.error e) => _
      | _ => _
    rcases (a.climb p now leaf).outcome with e | b <;> rfl

/-- **The statistics of an adapter count the calls through all that are related to it**, each as a
check and under one more counter; nothing else changes them. -/
theorem snapshot_counts_calls (hr : Reachable p inner h) :
    (∀ i x, h.holders[i]? = some x →
      (h.session.stats x.adapter).snapshot =
          Counter.all.map (fun c => (c, .ofNat (h.countThrough p i c))) ∧
        (∀ c, (h.session.stats x.adapter).read c = .ofNat (h.countThrough p i c)) ∧
        (∀ c n, (c, n) ∈ (h.session.stats x.adapter).snapshot ↔
          n = .ofNat (h.countThrough p i c)) ∧
        (h.session.stats x.adapter).checks = (h.session.stats x.adapter).validated +
          (h.session.stats x.adapter).rejected + (h.session.stats x.adapter).empty +
          (h.session.stats x.adapter).fatal) ∧
    (∀ i j x y, h.holders[i]? = some x → h.holders[j]? = some y → h.Related i j →
      h.session.stats x.adapter = h.session.stats y.adapter) ∧
    (∀ op j y, h.holders[j]? = some y → (∀ i, op.asks? = some i → ¬ h.Related i j) →
      (h.step p inner op).session.stats y.adapter = h.session.stats y.adapter) ∧
    (∀ (i : Nat) (v : SupplementaryVerifier) now (x : Presentation),
      h.holders[i]? = some (.verifier v) →
      ((∃ leaf, Certificate.ofDer x.leaf = .ok leaf) →
        ((v.verifyCertificate p now h.session x).session.stats v.adapter).checks =
          (h.session.stats v.adapter).checks + 1) ∧
      ((∃ fault, Certificate.ofDer x.leaf = .error fault) →
        (v.verifyCertificate p now h.session x).session = h.session)) ∧
    ∀ i x now chain authType, h.holders[i]? = some x →
      (h.session.isTrusted p now x.adapter chain authType).1.outcome =
        match Call.outcome? p ⟨i, x.adapter, now, chain⟩ with
        | some (.error e) => .error e
        | _ => .ok false := by
  have k := hr.kept
  refine ⟨fun i x hi => ⟨?_, k.stats_eq hi, fun c n => ?_, ?_⟩, fun i j x y hi hj hij => ?_,
    fun op j y hj hwho => ?_, fun i v now x hi => ⟨?_, ?_⟩, fun i x now chain authType _ => ?_⟩
  · exact List.map_congr_left fun c _ => by rw [k.stats_eq hi c]
  · rw [TrustStats.mem_snapshot_iff, k.stats_eq hi c]
  · have hread := k.stats_eq hi
    have hsum : (h.session.stats x.adapter).read .checks = (h.session.stats x.adapter).read .validated +
        (h.session.stats x.adapter).read .rejected + (h.session.stats x.adapter).read .empty +
        (h.session.stats x.adapter).read .fatal := by
      rw [hread, hread, hread, hread, hread, countThrough_checks, UInt64.ofNat_add, UInt64.ofNat_add,
        UInt64.ofNat_add]
    exact hsum
  · have hsame := k.account_eq hij
    rw [account?_eq_some_iff.mpr ⟨x, hi, rfl⟩, account?_eq_some_iff.mpr ⟨y, hj, rfl⟩] at hsame
    unfold Session.stats
    rw [Option.some.inj hsame]
  · exact k.stats_of_unrelated (step_move p inner h op) hj hwho
  · rintro ⟨leaf, hleaf⟩
    exact k.verified_checks hi hleaf now
  · rintro ⟨fault, hleaf⟩
    exact (SupplementaryVerifier.verifyCertificate_of_undecodable hleaf).2
  · exact isTrusted_outcome p now h.session x.adapter chain authType i

/-! ## Four adapters -/

/-- An adapter, its clone, that with a fixed instant, and an adapter of its own. -/
def fourAdapters : History :=
  run .standard (fun store => .pathVerifier .standard store.roots)
    [.create ⟨[rootCertificate]⟩, .clone 0, .withValidator 1 { fixed := some 0 },
      .create ⟨[]⟩, .check 1 0 [SupplementaryVerifier.md5Certificate] "UNKNOWN",
      .check 2 0 [] "UNKNOWN", .check 3 0 [] "UNKNOWN"]

def rootAdapter : TrustAdapter := { anchors := ⟨[rootCertificate]⟩, account := 0 }

theorem related_fourAdapters : fourAdapters.Related 0 2 :=
  .trans _ 1 _ (.rel _ _ (by decide)) (.rel _ _ (by decide))

/-- The last was asked once and shows two checks, the other being that of the clone. -/
theorem stats_fourAdapters :
    Reachable .standard (fun store => .pathVerifier .standard store.roots) fourAdapters ∧
      fourAdapters.holders[0]? = some (.alone rootAdapter) ∧
      fourAdapters.holders[2]? = some (.alone (rootAdapter.withValidator { fixed := some 0 })) ∧
      fourAdapters.Related 0 2 ∧
      fourAdapters.session.stats (rootAdapter.withValidator { fixed := some 0 }) =
        { checks := 2, empty := 1, fatal := 1 } := by
  have hreach : Reachable .standard (fun store => .pathVerifier .standard store.roots)
      fourAdapters := ⟨_, rfl⟩
  have hstats : fourAdapters.session.stats rootAdapter = { checks := 2, empty := 1, fatal := 1 } := by
    decide +kernel
  have hsame := (snapshot_counts_calls hreach).2.1 0 2 _ _ rfl rfl related_fourAdapters
  exact ⟨hreach, rfl, rfl, related_fourAdapters, hsame.symm.trans hstats⟩

end ChainOfTrust.History
