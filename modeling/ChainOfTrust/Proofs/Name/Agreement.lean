import Mathlib.Data.List.FinRange
import Mathlib.Data.String.Basic
import Mathlib.Logic.Equiv.Fin.Basic
import ChainOfTrust.Proofs.Name.Attributes

/-!
# When names agree

* `FormValue.le_total`, `FormValue.le_trans`, `FormValue.le_antisymm`, the same for `Form` : forms are
  in a linear order, so a sorted list of them shows how often each occurs and nothing more;
* `agrees_iff_perm` : names agree if the forms of one are those of the other in some order;
* `map_perm_map_iff` : lists are the same up to order if their places can be paired so that partners
  hold the same;
* `agrees_iff_pairing` : names agree if their attributes can be paired so that each matches its
  partner.
-/

namespace ChainOfTrust.X509

set_option autoImplicit false

/-! ## The order of forms -/

section Order

variable {u v w : FormValue} {f g : Form}

theorem FormValue.text_le_text {s t : String} :
    FormValue.le (.text s) (.text t) = true ↔ s ≤ t := by
  unfold FormValue.le
  rw [Bool.not_eq_true', decide_eq_false_iff_not, not_lt]

theorem FormValue.raw_le_raw {t t' : UInt8} {c c' : Bytes} :
    FormValue.le (.raw t c) (.raw t' c') = true ↔ t :: c ≤ t' :: c' := by
  unfold FormValue.le
  rw [Bool.not_eq_true', decide_eq_false_iff_not, List.not_lt]

theorem FormValue.le_total (v w : FormValue) : v.le w = true ∨ w.le v = true := by
  rcases v with s | ⟨t, c⟩ <;> rcases w with s' | ⟨t', c'⟩
  · rw [text_le_text, text_le_text]
    exact String.le_total s s'
  · exact Or.inl rfl
  · exact Or.inr rfl
  · rw [raw_le_raw, raw_le_raw]
    exact List.le_total _ _

theorem FormValue.le_trans (huv : u.le v = true) (hvw : v.le w = true) : u.le w = true := by
  rcases u with s | ⟨t, c⟩ <;> rcases v with s' | ⟨t', c'⟩ <;> rcases w with s'' | ⟨t'', c''⟩
  · rw [text_le_text] at huv hvw ⊢
    exact String.le_trans huv hvw
  · rfl
  · exact nomatch hvw
  · rfl
  · exact nomatch huv
  · exact nomatch huv
  · exact nomatch hvw
  · rw [raw_le_raw] at huv hvw ⊢
    exact List.le_trans huv hvw

theorem FormValue.le_antisymm (hvw : v.le w = true) (hwv : w.le v = true) : v = w := by
  rcases v with s | ⟨t, c⟩ <;> rcases w with s' | ⟨t', c'⟩
  · rw [text_le_text] at hvw hwv
    rw [String.le_antisymm hvw hwv]
  · exact nomatch hwv
  · exact nomatch hvw
  · rw [raw_le_raw] at hvw hwv
    obtain ⟨rfl, rfl⟩ := List.cons.inj (List.le_antisymm hvw hwv)
    rfl

theorem Form.le_iff :
    f.le g = true ↔ f.type < g.type ∨ f.type = g.type ∧ f.value.le g.value = true := by
  unfold Form.le
  split
  · rename_i htype
    rw [htype]
    exact ⟨fun hle => Or.inr ⟨rfl, hle⟩, fun hle => (hle.resolve_left (lt_irrefl _)).2⟩
  · rename_i htype
    rw [decide_eq_true_eq]
    exact ⟨Or.inl, fun hle => hle.resolve_right fun he => htype he.1⟩

theorem Form.le_total (f g : Form) : (f.le g || g.le f) = true := by
  rw [Bool.or_eq_true, le_iff, le_iff]
  rcases lt_trichotomy f.type g.type with hlt | heq | hgt
  · exact Or.inl (Or.inl hlt)
  · rcases FormValue.le_total f.value g.value with hle | hle
    · exact Or.inl (Or.inr ⟨heq, hle⟩)
    · exact Or.inr (Or.inr ⟨heq.symm, hle⟩)
  · exact Or.inr (Or.inl hgt)

theorem Form.le_trans (f g h : Form) (hfg : f.le g = true) (hgh : g.le h = true) :
    f.le h = true := by
  rw [le_iff] at hfg hgh ⊢
  rcases hfg with hfg | ⟨hfg, hfg'⟩ <;> rcases hgh with hgh | ⟨hgh, hgh'⟩
  · exact Or.inl (lt_trans hfg hgh)
  · exact Or.inl (hgh ▸ hfg)
  · exact Or.inl (hfg ▸ hgh)
  · exact Or.inr ⟨hfg.trans hgh, FormValue.le_trans hfg' hgh'⟩

theorem Form.le_antisymm (hfg : f.le g = true) (hgf : g.le f = true) : f = g := by
  rw [le_iff] at hfg hgf
  rcases hfg with hfg | ⟨hfg, hfg'⟩ <;> rcases hgf with hgf | ⟨hgf, hgf'⟩
  · exact absurd hgf (lt_asymm hfg)
  · exact absurd hgf hfg.ne'
  · exact absurd hfg hgf.ne'
  · obtain ⟨type, value⟩ := f
    obtain ⟨type', value'⟩ := g
    obtain rfl : type = type' := hfg
    obtain rfl : value = value' := FormValue.le_antisymm hfg' hgf'
    rfl

/-- Lists of forms are the same once sorted if one is the other in another order. -/
theorem mergeSort_eq_iff_perm (l l' : List Form) :
    l.mergeSort Form.le = l'.mergeSort Form.le ↔ l.Perm l' := by
  have hsorted := List.pairwise_mergeSort Form.le_trans Form.le_total
  constructor
  · intro heq
    have hperm := List.mergeSort_perm l Form.le
    rw [heq] at hperm
    exact hperm.symm.trans (List.mergeSort_perm l' Form.le)
  · intro hperm
    refine List.Perm.eq_of_pairwise (fun f g _ _ => Form.le_antisymm) (hsorted l) (hsorted l') ?_
    exact ((List.mergeSort_perm l _).trans hperm).trans (List.mergeSort_perm l' _).symm

end Order

/-! ## Pairings -/

section Pairing

variable {α β : Type}

/-- The pairing follows the steps that bring one list into the order of the other. -/
theorem exists_equiv_of_perm {l l' : List α} (hperm : l.Perm l') :
    ∃ f : Fin l.length ≃ Fin l'.length, ∀ i, l'.get (f i) = l.get i := by
  induction hperm with
  | nil => exact ⟨Equiv.refl _, fun i => i.elim0⟩
  | @cons x l l' _ ih =>
    -- the first places are partners, the others as before
    obtain ⟨f, hf⟩ := ih
    refine ⟨(finSuccEquiv _).trans ((Equiv.optionCongr f).trans (finSuccEquiv _).symm), ?_⟩
    refine Fin.cases rfl fun i => ?_
    show (x :: l').get ((finSuccEquiv _).symm ((finSuccEquiv _ i.succ).map f)) = _
    rw [finSuccEquiv_succ, Option.map_some, finSuccEquiv_symm_some]
    exact hf i
  | swap x y l =>
    refine ⟨Equiv.swap 0 1, ?_⟩
    refine Fin.cases ?_ (Fin.cases ?_ fun i => ?_)
    · rw [Equiv.swap_apply_left]
      rfl
    · rw [Fin.succ_zero_eq_one, Equiv.swap_apply_right]
      rfl
    · have hfix : Equiv.swap (0 : Fin (l.length + 2)) 1 i.succ.succ = i.succ.succ :=
        Equiv.swap_apply_of_ne_of_ne (Fin.succ_ne_zero _)
          fun h => Fin.succ_ne_zero i (Fin.succ_injective _ h)
      show (x :: y :: l).get (Equiv.swap (0 : Fin (l.length + 2)) 1 i.succ.succ) = _
      rw [hfix]
      rfl
  | trans _ _ ih ih' =>
    obtain ⟨f, hf⟩ := ih
    obtain ⟨f', hf'⟩ := ih'
    exact ⟨f.trans f', fun i => (hf' (f i)).trans (hf i)⟩

theorem map_perm_map_of_equiv {g : α → β} {l l' : List α} (f : Fin l.length ≃ Fin l'.length)
    (hf : ∀ i, g (l'.get (f i)) = g (l.get i)) : (l.map g).Perm (l'.map g) := by
  have hplaces : ((List.finRange l.length).map f).Perm (List.finRange l'.length) := by
    rw [List.perm_ext_iff_of_nodup ((List.nodup_finRange _).map f.injective) (List.nodup_finRange _)]
    intro j
    exact ⟨fun _ => List.mem_finRange j,
      fun _ => List.mem_map.mpr ⟨f.symm j, List.mem_finRange _, f.apply_symm_apply j⟩⟩
  have hpaired : (g ∘ l'.get) ∘ f = g ∘ l.get := funext hf
  have hmap := (hplaces.map l'.get).map g
  rw [List.map_get_finRange, List.map_map, List.map_map, hpaired, ← List.map_map,
    List.map_get_finRange] at hmap
  exact hmap

theorem map_perm_map_iff (g : α → β) (l l' : List α) :
    (l.map g).Perm (l'.map g) ↔
      ∃ f : Fin l.length ≃ Fin l'.length, ∀ i, g (l'.get (f i)) = g (l.get i) := by
  constructor
  · intro hperm
    obtain ⟨f, hf⟩ := exists_equiv_of_perm hperm
    have hl : l.length = (l.map g).length := (List.length_map g).symm
    have hl' : (l'.map g).length = l'.length := List.length_map g
    refine ⟨(finCongr hl).trans (f.trans (finCongr hl')), fun i => ?_⟩
    have hi := hf (finCongr hl i)
    rw [List.get_eq_getElem, List.get_eq_getElem, List.getElem_map, List.getElem_map] at hi
    exact hi
  · rintro ⟨f, hf⟩
    exact map_perm_map_of_equiv f hf

end Pairing

/-! ## Names -/

namespace Name

variable {m m' n : Name}

theorem agrees_iff_forms : m.agrees n = true ↔ m.forms = n.forms := by
  unfold agrees
  rw [decide_eq_true_eq]

theorem agrees_iff_perm : m.agrees n = true ↔
    (m.attributes.map Attribute.form).Perm (n.attributes.map Attribute.form) :=
  agrees_iff_forms.trans (mergeSort_eq_iff_perm _ _)

theorem agrees_iff_exists_equiv : m.agrees n = true ↔
    ∃ f : Fin m.attributes.length ≃ Fin n.attributes.length,
      ∀ i, Matches (m.attributes.get i) (n.attributes.get (f i)) := by
  rw [agrees_iff_perm, map_perm_map_iff]
  refine exists_congr fun f => forall_congr' fun i => ?_
  rw [← Attribute.form_eq_iff]
  exact eq_comm

theorem agrees_equivalence : Equivalence fun m n : Name => m.agrees n = true where
  refl _ := agrees_iff_forms.mpr rfl
  symm h := agrees_iff_forms.mpr (agrees_iff_forms.mp h).symm
  trans h h' := agrees_iff_forms.mpr ((agrees_iff_forms.mp h).trans (agrees_iff_forms.mp h'))

/-- The order and the grouping of attributes do not matter. -/
theorem agrees_eq_of_perm (h : m.attributes.Perm m'.attributes) (n : Name) :
    m.agrees n = m'.agrees n := by
  have hforms : m.forms = m'.forms := (mergeSort_eq_iff_perm _ _).mpr (h.map Attribute.form)
  unfold agrees
  rw [hforms]

theorem countP_matches (n : Name) (a : Attribute) :
    n.attributes.countP (fun b => Matches a b) = (n.attributes.map Attribute.form).count a.form := by
  rw [List.count, List.countP_map]
  refine List.countP_congr fun b _ => ?_
  rw [decide_eq_true_eq, ← Attribute.form_eq_iff, Function.comp_apply, beq_iff_eq]
  exact eq_comm

theorem countP_matches_of_agrees (h : m.agrees n = true) (a : Attribute) :
    m.attributes.countP (fun b => Matches a b) = n.attributes.countP (fun b => Matches a b) := by
  rw [countP_matches, countP_matches]
  exact (agrees_iff_perm.mp h).count_eq _

theorem hashInto_of_agrees (h : m.agrees n = true) {σ : Type} (feed : σ → HashItem → σ) (start : σ) :
    m.hashInto feed start = n.hashInto feed start := by
  unfold hashInto hashItems
  rw [agrees_iff_forms.mp h]

theorem not_matches_of_text {a b : Attribute} {s : String} (ha : Reads a.value s)
    (hb : ∀ t, ¬ Reads b.value t) : ¬ Matches a b := by
  rintro ⟨-, hvalue⟩
  cases hvalue with
  | text hu hv h => exact hb _ hv
  | other hu hv htag hcontent => exact hu s ha

/-- **Names agree when their attributes can be paired so that partners match**, and on nothing else:
not on the order or grouping of attributes, but on how often each occurs. Names that agree are hashed
alike. -/
theorem agrees_iff_pairing :
    (∀ m n : Name, m.agrees n = true ↔
      ∃ f : Fin m.attributes.length ≃ Fin n.attributes.length,
        ∀ i, Matches (m.attributes.get i) (n.attributes.get (f i))) ∧
    (∀ (a b : Attribute) s, Reads a.value s → (∀ t, ¬ Reads b.value t) →
      (⟨[[a]]⟩ : Name).agrees ⟨[[b]]⟩ = false) ∧
    Equivalence (fun m n : Name => m.agrees n = true) ∧
    (∀ sets sets' : List (List Attribute), sets.Perm sets' →
      ∀ n, (⟨sets⟩ : Name).agrees n = (⟨sets'⟩ : Name).agrees n) ∧
    (∀ (before after : List (List Attribute)) (set set' : List Attribute), set.Perm set' →
      ∀ n, (⟨before ++ set :: after⟩ : Name).agrees n =
        (⟨before ++ set' :: after⟩ : Name).agrees n) ∧
    (∀ (before after : List (List Attribute)) (set set' : List Attribute) n,
      (⟨before ++ (set ++ set') :: after⟩ : Name).agrees n =
        (⟨before ++ set :: set' :: after⟩ : Name).agrees n) ∧
    (∀ (m n : Name) a, m.attributes.countP (fun b => Matches a b) ≠
      n.attributes.countP (fun b => Matches a b) → m.agrees n = false) ∧
    ∀ m n : Name, m.agrees n = true → ∀ {σ : Type} (feed : σ → HashItem → σ) (start : σ),
      m.hashInto feed start = n.hashInto feed start := by
  refine ⟨fun m n => agrees_iff_exists_equiv, fun a b s ha hb => ?_, agrees_equivalence,
    fun sets sets' h => ?_, fun before after set set' h => ?_, fun before after set set' => ?_,
    fun m n a h => ?_, fun m n h _ => hashInto_of_agrees h⟩
  · rw [Bool.eq_false_iff]
    intro h
    have hforms : a.form = b.form := List.singleton_perm_singleton.mp (agrees_iff_perm.mp h)
    exact not_matches_of_text ha hb (Attribute.form_eq_iff.mp hforms)
  · exact agrees_eq_of_perm h.flatten
  · refine agrees_eq_of_perm ?_
    show (before ++ set :: after).flatten.Perm (before ++ set' :: after).flatten
    rw [List.flatten_append, List.flatten_append, List.flatten_cons, List.flatten_cons]
    exact (h.append_right _).append_left _
  · refine agrees_eq_of_perm (List.Perm.of_eq ?_)
    show (before ++ (set ++ set') :: after).flatten = (before ++ set :: set' :: after).flatten
    simp only [List.flatten_append, List.flatten_cons, List.append_assoc]
  · rw [Bool.eq_false_iff]
    exact fun hagrees => h (countP_matches_of_agrees hagrees a)

/-! ## A name written twice -/

def commonName : Oid := .ofArcs [2, 5, 4, 3]

def organization : Oid := .ofArcs [2, 5, 4, 10]

/-- Two sets of one attribute. -/
def gateway : Name :=
  ⟨[[⟨commonName, ⟨Der.Tag.printableString, Text.octets "Gateway  CA"⟩⟩],
    [⟨organization, ⟨Der.Tag.utf8String, Text.octets "Example"⟩⟩]]⟩

/-- One set of two, in the other order and in other strings. -/
def gatewayAgain : Name :=
  ⟨[[⟨organization, ⟨Der.Tag.ia5String, Text.octets "EXAMPLE"⟩⟩,
    ⟨commonName, ⟨Der.Tag.utf8String, Text.octets " gateway CA"⟩⟩]]⟩

def gatewayPairing : Fin gateway.attributes.length ≃ Fin gatewayAgain.attributes.length :=
  (Equiv.swap 0 1 : Equiv.Perm (Fin 2))

/-- The common name twice, without the organization. -/
def gatewayTwice : Name := ⟨gateway.sets.take 1 ++ gateway.sets.take 1⟩

/-- The same value under another type. -/
def gatewayUnit : Name :=
  ⟨[[⟨organization, ⟨Der.Tag.printableString, Text.octets "Gateway  CA"⟩⟩], gateway.sets.getD 1 []]⟩

/-- The common name under an identifier whose last arc has a digit more, a zero in front. -/
def gatewayPadded : Name :=
  ⟨[[⟨⟨[0x55, 0x04, 0x80, 0x03]⟩, ⟨Der.Tag.printableString, Text.octets "Gateway  CA"⟩⟩],
    gateway.sets.getD 1 []]⟩

theorem agrees_gatewayAgain :
    gateway.agrees gatewayAgain = true ∧ gateway.agrees gatewayTwice = false ∧
      gateway.agrees gatewayUnit = false ∧ gateway.agrees gatewayPadded = true ∧
      ∀ start, gateway.hashInto (fun items item => items ++ [item]) start =
        gatewayAgain.hashInto (fun items item => items ++ [item]) start := by
  obtain ⟨hpairing, -, -, -, -, -, hcount, hhash⟩ := agrees_iff_pairing
  have hmatches : ∀ i, Matches (gateway.attributes.get i)
      (gatewayAgain.attributes.get (gatewayPairing i)) := by
    decide +kernel
  have hagrees := (hpairing gateway gatewayAgain).mpr ⟨gatewayPairing, hmatches⟩
  refine ⟨hagrees, ?_, ?_, ?_, fun start => hhash _ _ hagrees _ start⟩
  · exact hcount _ _ ⟨organization, ⟨Der.Tag.utf8String, Text.octets "Example"⟩⟩ (by decide +kernel)
  · exact hcount _ _ ⟨commonName, ⟨Der.Tag.printableString, Text.octets "Gateway  CA"⟩⟩
      (by decide +kernel)
  · exact (hpairing gateway gatewayPadded).mpr ⟨Equiv.refl (Fin 2), by decide +kernel⟩

end Name

end ChainOfTrust.X509
