import Mathlib.Data.List.Chain
import ChainOfTrust.Text.Blank

/-!
# Words and the white space between them

* `IsWord` : characters in a row, none of them white space, and `words_append_blank` : words are found
  apart on the two sides of a white space. Everything about `words` follows from these two;
* `Spaced ws s` : the text `s` is the words `ws` with white space between and around them, and
  `spaced_iff` : a text is that of its words and of no other list;
* `words_intercalate`, `collapse_intercalate` : a text that was collapsed has the same words and is not
  changed by collapsing it again;
* `Tidy` : texts without white space but for single spaces between words, `tidy_intercalate`.
-/

namespace ChainOfTrust.Text

set_option autoImplicit false

variable {s t w : List Char} {ws vs : List (List Char)} {c : Char}

/-! ## Words -/

structure IsWord (w : List Char) : Prop where
  ne_nil : w ≠ []
  not_blank : ∀ c ∈ w, isBlank c = false

theorem words_append_blank (hc : isBlank c = true) (s t : List Char) :
    words (s ++ c :: t) = words s ++ words t := by
  unfold words
  rw [List.splitOnP_append_cons s t hc, List.filter_append]

theorem words_cons_blank (hc : isBlank c = true) (s : List Char) : words (c :: s) = words s :=
  words_append_blank hc [] s

theorem words_of_blank (hs : ∀ c ∈ s, isBlank c = true) : words s = [] := by
  induction s with
  | nil => rfl
  | cons c s ih =>
    rw [List.forall_mem_cons] at hs
    rw [words_cons_blank hs.1, ih hs.2]

theorem words_blank_append (hs : ∀ c ∈ s, isBlank c = true) (t : List Char) :
    words (s ++ t) = words t := by
  induction s with
  | nil => rfl
  | cons c s ih =>
    rw [List.forall_mem_cons] at hs
    rw [List.cons_append, words_cons_blank hs.1, ih hs.2]

theorem words_of_isWord (hw : IsWord w) : words w = [w] := by
  unfold words
  rw [List.splitOnP_eq_singleton hw.not_blank]
  exact List.filter_cons_of_pos (by simp [hw.ne_nil])

/-- A word ends where the text ends or white space begins. -/
theorem words_isWord_append (hw : IsWord w) (ht : ∀ c ∈ t.head?, isBlank c = true) :
    words (w ++ t) = w :: words t := by
  cases t with
  | nil =>
    rw [List.append_nil, words_of_isWord hw]
    rfl
  | cons c t =>
    have hc : isBlank c = true := ht c rfl
    rw [words_append_blank hc, words_of_isWord hw, words_cons_blank hc]
    rfl

/-! ## Layouts -/

inductive Spaced : List (List Char) → List Char → Prop
  | blank {s : List Char} (hs : ∀ c ∈ s, isBlank c = true) : Spaced [] s
  | word {ws : List (List Char)} {gap w s : List Char} (hgap : ∀ c ∈ gap, isBlank c = true)
      (hw : IsWord w) (hs : ∀ c ∈ s.head?, isBlank c = true) (rest : Spaced ws s) :
      Spaced (w :: ws) (gap ++ w ++ s)

theorem Spaced.words_eq (h : Spaced ws s) : words s = ws := by
  induction h with
  | blank hs => exact words_of_blank hs
  | word hgap hw hs _ ih =>
    rw [List.append_assoc, words_blank_append hgap, words_isWord_append hw hs, ih]

theorem Spaced.isWord (h : Spaced ws s) (hw : w ∈ ws) : IsWord w := by
  induction h with
  | blank hs => cases hw
  | word _ hfirst _ _ ih =>
    rcases List.mem_cons.mp hw with rfl | hw
    · exact hfirst
    · exact ih hw

theorem Spaced.subset (h : Spaced ws s) (hw : w ∈ ws) : w ⊆ s := by
  induction h with
  | blank hs => cases hw
  | word _ _ _ _ ih =>
    rcases List.mem_cons.mp hw with rfl | hw
    · exact fun c hc => List.mem_append_left _ (List.mem_append_right _ hc)
    · exact fun c hc => List.mem_append_right _ (ih hw hc)

theorem Spaced.cons_blank (hc : isBlank c = true) (h : Spaced ws s) : Spaced ws (c :: s) := by
  cases h with
  | blank hs => exact .blank (List.forall_mem_cons.mpr ⟨hc, hs⟩)
  | @word ws gap w s hgap hw hs rest =>
    show Spaced (w :: ws) ((c :: gap) ++ w ++ s)
    exact .word (List.forall_mem_cons.mpr ⟨hc, hgap⟩) hw hs rest

/-- A character in front begins a word or is put in front of the first one. -/
theorem Spaced.exists_cons (hc : isBlank c = false) (h : Spaced ws s) :
    ∃ vs, Spaced vs (c :: s) := by
  have hgap : ∀ d ∈ ([] : List Char), isBlank d = true := fun _ hd => (List.not_mem_nil hd).elim
  have hword : IsWord [c] := ⟨List.cons_ne_nil c [], List.forall_mem_singleton.mpr hc⟩
  cases h with
  | blank hs =>
    exact ⟨[[c]], .word hgap hword (fun d hd => hs d (List.mem_of_mem_head? hd)) (.blank hs)⟩
  | @word ws gap w s hs hw hend rest =>
    cases gap with
    | nil =>
      have hlonger : IsWord (c :: w) :=
        ⟨List.cons_ne_nil c w, List.forall_mem_cons.mpr ⟨hc, hw.not_blank⟩⟩
      exact ⟨(c :: w) :: ws, .word hgap hlonger hend rest⟩
    | cons g gap =>
      have hg : ∀ d ∈ (g :: gap ++ w ++ s).head?, isBlank d = true := by
        intro d hd
        cases hd
        exact hs g List.mem_cons_self
      exact ⟨[c] :: w :: ws, .word hgap hword hg (.word hs hw hend rest)⟩

theorem exists_spaced (s : List Char) : ∃ ws, Spaced ws s := by
  induction s with
  | nil => exact ⟨[], .blank fun _ hc => (List.not_mem_nil hc).elim⟩
  | cons c s ih =>
    obtain ⟨ws, h⟩ := ih
    cases hc : isBlank c with
    | true => exact ⟨ws, h.cons_blank hc⟩
    | false => exact h.exists_cons hc

/-- A text is that of its words and of no other list. -/
theorem spaced_iff : Spaced ws s ↔ words s = ws := by
  constructor
  · exact Spaced.words_eq
  · rintro rfl
    obtain ⟨ws, h⟩ := exists_spaced s
    rw [h.words_eq]
    exact h

theorem isWord_of_mem_words (hw : w ∈ words s) : IsWord w := (spaced_iff.mpr rfl).isWord hw

/-! ## Words joined -/

theorem spaced_intercalate (h : ∀ w ∈ ws, IsWord w) : Spaced ws ([' '].intercalate ws) := by
  have hgap : ∀ c ∈ ([] : List Char), isBlank c = true := fun _ hc => (List.not_mem_nil hc).elim
  induction ws with
  | nil => exact .blank hgap
  | cons w ws ih =>
    rw [List.forall_mem_cons] at h
    cases ws with
    | nil =>
      have hlast : Spaced [w] ([] ++ w ++ []) := .word hgap h.1 (by simp) (.blank hgap)
      rw [List.intercalate_singleton]
      rwa [List.append_nil] at hlast
    | cons v vs =>
      rw [List.intercalate_cons_cons, List.append_assoc, List.singleton_append]
      refine .word hgap h.1 (fun c hc => ?_) ((ih h.2).cons_blank rfl)
      cases hc
      rfl

theorem words_intercalate (h : ∀ w ∈ ws, IsWord w) : words ([' '].intercalate ws) = ws :=
  (spaced_intercalate h).words_eq

theorem collapse_intercalate (h : ∀ w ∈ ws, IsWord w) :
    collapse ([' '].intercalate ws) = [' '].intercalate ws := by
  rw [collapse, words_intercalate h]

theorem intercalate_inj (hws : ∀ w ∈ ws, IsWord w) (hvs : ∀ v ∈ vs, IsWord v) :
    [' '].intercalate ws = [' '].intercalate vs ↔ ws = vs := by
  constructor
  · intro h
    rw [← words_intercalate hws, h, words_intercalate hvs]
  · rintro rfl
    rfl

theorem map_intercalate (f : Char → Char) (hf : f ' ' = ' ') (ws : List (List Char)) :
    ([' '].intercalate ws).map f = [' '].intercalate (ws.map (List.map f)) := by
  induction ws with
  | nil => rfl
  | cons w ws ih =>
    cases ws with
    | nil => rw [List.intercalate_singleton, List.map_singleton, List.intercalate_singleton]
    | cons v vs =>
      rw [List.intercalate_cons_cons, List.map_append, List.map_append, ih, List.map_singleton, hf]
      exact List.intercalate_cons_cons.symm

theorem eq_or_exists_of_mem_intercalate (h : c ∈ [' '].intercalate ws) :
    c = ' ' ∨ ∃ w ∈ ws, c ∈ w := by
  induction ws with
  | nil => exact (List.not_mem_nil h).elim
  | cons w ws ih =>
    cases ws with
    | nil =>
      rw [List.intercalate_singleton] at h
      exact .inr ⟨w, List.mem_cons_self, h⟩
    | cons v vs =>
      rw [List.intercalate_cons_cons, List.mem_append, List.mem_append, List.mem_singleton] at h
      rcases h with (h | rfl) | h
      · exact .inr ⟨w, List.mem_cons_self, h⟩
      · exact .inl rfl
      · rcases ih h with rfl | ⟨u, hu, hc⟩
        · exact .inl rfl
        · exact .inr ⟨u, List.mem_cons_of_mem w hu, hc⟩

theorem mem_of_mem_collapse (h : c ∈ collapse s) : c = ' ' ∨ c ∈ s := by
  rcases eq_or_exists_of_mem_intercalate h with rfl | ⟨w, hw, hc⟩
  · exact .inl rfl
  · exact .inr ((spaced_iff.mpr rfl).subset hw hc)

/-! ## Tidy texts -/

structure Tidy (s : List Char) : Prop where
  spaces : ∀ c ∈ s, isBlank c = true → c = ' '
  leading : ∀ c ∈ s.head?, isBlank c = false
  trailing : ∀ c ∈ s.getLast?, isBlank c = false
  single : s.IsChain fun a b => isBlank a = false ∨ isBlank b = false

theorem Tidy.nil : Tidy [] where
  spaces _ hc := (List.not_mem_nil hc).elim
  leading _ hc := nomatch hc
  trailing _ hc := nomatch hc
  single := .nil

theorem tidy_of_isWord (hw : IsWord w) : Tidy w where
  spaces c hc hblank := by
    rw [hw.not_blank c hc] at hblank
    cases hblank
  leading c hc := hw.not_blank c (List.mem_of_mem_head? hc)
  trailing c hc := hw.not_blank c (List.mem_of_mem_getLast? hc)
  single := (List.pairwise_of_forall_mem_list fun a ha _ _ => .inl (hw.not_blank a ha)).isChain

/-- A word, one space and a tidy text that is not empty make a tidy text. -/
theorem Tidy.isWord_append (hw : IsWord w) (h : Tidy t) (ht : t ≠ []) : Tidy (w ++ ' ' :: t) where
  spaces c hc hblank := by
    rcases List.mem_append.mp hc with hc | hc
    · exact (tidy_of_isWord hw).spaces c hc hblank
    · rcases List.mem_cons.mp hc with rfl | hc
      · rfl
      · exact h.spaces c hc hblank
  leading c hc := by
    rw [List.head?_append_of_ne_nil w hw.ne_nil] at hc
    exact (tidy_of_isWord hw).leading c hc
  trailing c hc := by
    rw [List.getLast?_append_of_ne_nil w (List.cons_ne_nil ' ' t), List.getLast?_cons_of_ne_nil ht] at hc
    exact h.trailing c hc
  single := by
    refine (tidy_of_isWord hw).single.append ?_ fun a ha _ _ => .inl ((tidy_of_isWord hw).trailing a ha)
    exact List.isChain_cons.mpr ⟨fun b hb => .inr (h.leading b hb), h.single⟩

theorem tidy_intercalate (h : ∀ w ∈ ws, IsWord w) : Tidy ([' '].intercalate ws) := by
  induction ws with
  | nil => exact .nil
  | cons w ws ih =>
    rw [List.forall_mem_cons] at h
    cases ws with
    | nil =>
      rw [List.intercalate_singleton]
      exact tidy_of_isWord h.1
    | cons v vs =>
      rw [List.intercalate_cons_cons, List.append_assoc, List.singleton_append]
      refine .isWord_append h.1 (ih h.2) fun hnil => ?_
      have hwords := words_intercalate h.2
      rw [hnil] at hwords
      cases hwords

end ChainOfTrust.Text
