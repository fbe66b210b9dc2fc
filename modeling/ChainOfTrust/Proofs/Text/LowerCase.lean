import Mathlib
import ChainOfTrust.Proofs.Text.Words
import ChainOfTrust.Text.LowerCase

/-!
# Texts in lower case

* `lowerRules_miss` : no image of a rule is a capital of any rule, and `lowerRules_land` : no image is
  white space, a capital below `80` or a number that is no code point;
* `lower_of_mem_lower` : what a character becomes stays as it is, and `lowerCase_lowerCase` : so does a
  whole text;
* `exists_lowerCaseAfter_intercalate` : words joined by single spaces become as many words joined by
  single spaces;
* `lowerCase_map_toLower` : the capitals below `80` of a text do not matter;
* `lowerCaseAfter_of_ascii` : a text below `80` loses its capitals and is not changed otherwise.
-/

namespace ChainOfTrust.Text

set_option autoImplicit false

variable {r q : LowerRule} {n m : Nat} {c d : Char} {s w before after : List Char}
  {ws : List (List Char)}

/-! ## The table -/

namespace LowerRule

def lastImage (r : LowerRule) : Nat := r.target + (r.last - r.first)

/-- All images lie before the range or behind it. -/
def clears (r : LowerRule) (range : Nat × Nat) : Bool :=
  Nat.blt r.lastImage range.1 || Nat.blt range.2 r.target

/-- The images keep clear of the capitals of `q` or, where these go by twos, lie between them. -/
def misses (r q : LowerRule) : Bool :=
  r.clears (q.first, q.last) ||
    (Nat.beq q.stride 2 && (Nat.beq r.stride 2 || Nat.beq r.first r.last) &&
      !Nat.beq (r.target % 2) (q.first % 2))

/-- The images are code points, none of them white space, a letter's capital below `80` or the one
character whose lower case is longer. -/
def lands (r : LowerRule) : Bool :=
  Nat.blt r.lastImage 0x110000 &&
    ([(0, 0x5A), (0x130, 0x130), (0xD800, 0xDFFF)] ++ blankRanges).all r.clears

theorem image?_eq_some_iff :
    r.image? n = some m ↔
      r.first ≤ n ∧ n ≤ r.last ∧ (n - r.first) % r.stride = 0 ∧ r.target + (n - r.first) = m := by
  unfold image?
  rw [Option.ite_none_right_eq_some]
  simp only [Bool.and_eq_true, decide_eq_true_eq, beq_iff_eq, Option.some.injEq, and_assoc]

theorem not_mem_of_clears {range : Nat × Nat} (h : r.clears range = true) (hm : r.image? n = some m) :
    ¬(range.1 ≤ m ∧ m ≤ range.2) := by
  obtain ⟨hfirst, hlast, -, rfl⟩ := image?_eq_some_iff.mp hm
  simp only [clears, lastImage, Bool.or_eq_true, Nat.blt_eq] at h
  omega

theorem image?_of_misses (h : r.misses q = true) (hm : r.image? n = some m) : q.image? m = none := by
  rw [Option.eq_none_iff_forall_ne_some]
  intro k hk
  obtain ⟨hqfirst, hqlast, hqstride, -⟩ := image?_eq_some_iff.mp hk
  rcases Bool.or_eq_true_iff.mp h with h | h
  · exact not_mem_of_clears h hm ⟨hqfirst, hqlast⟩
  · -- The image is even where the capitals of `q` are odd, or the other way round.
    obtain ⟨hfirst, hlast, hstride, rfl⟩ := image?_eq_some_iff.mp hm
    simp only [Bool.and_eq_true, Bool.or_eq_true, Bool.not_eq_true', Bool.eq_false_iff, ne_eq,
      Nat.beq_eq] at h
    obtain ⟨⟨hq, hr⟩, hparity⟩ := h
    rw [hq] at hqstride
    have heven : (n - r.first) % 2 = 0 := by
      rcases hr with hr | hr
      · rwa [hr] at hstride
      · omega
    omega

end LowerRule

theorem lowerRules_miss : (lowerRules.all fun r => lowerRules.all r.misses) = true := by
  decide +kernel

theorem lowerRules_land : lowerRules.all LowerRule.lands = true := by
  decide +kernel

theorem image?_of_image {p : LowerRule} (hr : r ∈ lowerRules) (hp : p ∈ lowerRules)
    (hm : r.image? n = some m) : p.image? m = none :=
  LowerRule.image?_of_misses
    (List.all_eq_true.mp (List.all_eq_true.mp lowerRules_miss r hr) p hp) hm

/-! ## One character -/

/-- What is true of every number that a rule leads to. -/
structure Image (m : Nat) : Prop where
  isValidChar : m.isValidChar
  above : 0x5A < m
  ne_dotted : m ≠ 0x130
  not_blank : ∀ range ∈ blankRanges, ¬(range.1 ≤ m ∧ m ≤ range.2)
  no_rule : lowerRules.findSome? (·.image? m) = none

theorem image_of_findSome? (h : lowerRules.findSome? (·.image? n) = some m) : Image m := by
  obtain ⟨r, hr, hm⟩ := List.exists_of_findSome?_eq_some h
  have hland : r.lands = true := List.all_eq_true.mp lowerRules_land r hr
  simp only [LowerRule.lands, Bool.and_eq_true, Nat.blt_eq, List.all_eq_true] at hland
  have hclear : ∀ range ∈ [(0, 0x5A), (0x130, 0x130), (0xD800, 0xDFFF)] ++ blankRanges,
      ¬(range.1 ≤ m ∧ m ≤ range.2) :=
    fun range hrange => LowerRule.not_mem_of_clears (hland.2 range hrange) hm
  have hletters := hclear (0, 0x5A) (by simp)
  have hdotted := hclear (0x130, 0x130) (by simp)
  have hsurrogates := hclear (0xD800, 0xDFFF) (by simp)
  have hlast : m ≤ r.lastImage := by
    obtain ⟨hfirst, hlast, -, rfl⟩ := LowerRule.image?_eq_some_iff.mp hm
    unfold LowerRule.lastImage
    omega
  refine ⟨?_, by omega, by omega, fun range hrange => hclear range (by simp [hrange]), ?_⟩
  · unfold Nat.isValidChar
    omega
  · exact List.findSome?_eq_none_iff.mpr fun p hp => image?_of_image hr hp hm

theorem Image.toNat_ofNat (h : Image m) : (Char.ofNat m).toNat = m := by
  rw [Char.toNat_ofNat, if_pos h.isValidChar]

theorem toLower_cases (c : Char) :
    c.toLower = c ∨ 0x41 ≤ c.toNat ∧ c.toNat ≤ 0x5A ∧ c.toLower.toNat = c.toNat + 0x20 := by
  by_cases h : c.isUpper = true
  · have hrange : 0x41 ≤ c.toNat ∧ c.toNat ≤ 0x5A := by
      simpa [Char.isUpper, UInt32.le_iff_toNat_le] using h
    have hvalid : (c.toNat + 0x20).isValidChar := by
      unfold Nat.isValidChar
      omega
    refine .inr ⟨hrange.1, hrange.2, ?_⟩
    rw [Char.toLower_eq_of_isUpper h, Char.toNat_ofNat, if_pos hvalid]
  · exact .inl (Char.toLower_eq_of_not_isUpper h)

theorem toNat_toLower_lt (h : c.toNat < 0x80) : c.toLower.toNat < 0x80 := by
  rcases toLower_cases c with hc | ⟨-, hle, hc⟩
  · rwa [hc]
  · omega

theorem lower_of_ascii (h : c.toNat < 0x80) : lower c = [c.toLower] := if_pos h

theorem Image.lower_eq (h : Image m) : lower (Char.ofNat m) = [Char.ofNat m] := by
  have hsame : (Char.ofNat m).toLower = Char.ofNat m := by
    rcases toLower_cases (Char.ofNat m) with hc | ⟨-, hle, -⟩
    · exact hc
    · rw [h.toNat_ofNat] at hle
      exact absurd h.above (Nat.not_lt.mpr hle)
  unfold lower
  rw [hsame, h.toNat_ofNat, if_neg h.ne_dotted, h.no_rule, ite_self]

theorem Image.isBlank_eq (h : Image m) : isBlank (Char.ofNat m) = false := by
  unfold isBlank RangeTable.contains
  rw [List.any_eq_false]
  intro range hrange
  rw [h.toNat_ofNat, Bool.and_eq_true, decide_eq_true_eq, decide_eq_true_eq]
  exact h.not_blank range hrange

/-- The four ways in which a character is put in lower case. -/
theorem lower_cases (c : Char) :
    (c.toNat < 0x80 ∧ lower c = [c.toLower]) ∨ lower c = ['i', Char.ofNat 0x307] ∨
      (∃ m, Image m ∧ lower c = [Char.ofNat m]) ∨ lower c = [c] := by
  unfold lower
  split_ifs with hascii hdotted
  · exact .inl ⟨hascii, rfl⟩
  · exact .inr (.inl rfl)
  · cases hm : lowerRules.findSome? (·.image? c.toNat) with
    | some m => exact .inr (.inr (.inl ⟨m, image_of_findSome? hm, rfl⟩))
    | none => exact .inr (.inr (.inr rfl))

theorem lower_ne_nil (c : Char) : lower c ≠ [] := by
  rcases lower_cases c with ⟨-, hc⟩ | hc | ⟨m, -, hc⟩ | hc <;> simp [hc]

theorem lower_of_mem_lower (h : d ∈ lower c) : lower d = [d] := by
  rcases lower_cases c with ⟨hascii, hc⟩ | hc | ⟨m, hm, hc⟩ | hc
  · rw [hc, List.mem_singleton] at h
    rw [h, lower_of_ascii (toNat_toLower_lt hascii), Char.toLower_toLower_eq_toLower]
  · rw [hc, List.mem_pair] at h
    rcases h with rfl | rfl
    · rfl
    · decide +kernel
  · rw [hc, List.mem_singleton] at h
    rw [h, hm.lower_eq]
  · rw [hc, List.mem_singleton] at h
    rw [h, hc]

/-! ## Letters below `80` -/

/-- No number of the range is in the table. -/
def RangeTable.avoids (table : RangeTable) (range : Nat × Nat) : Bool :=
  table.all fun r => Nat.blt r.2 range.1 || Nat.blt range.2 r.1

theorem RangeTable.contains_of_avoids {table : RangeTable} {range : Nat × Nat}
    (h : table.avoids range = true) (hfirst : range.1 ≤ c.toNat) (hlast : c.toNat ≤ range.2) :
    table.contains c = false := by
  unfold contains
  rw [List.any_eq_false]
  intro r hr
  have hapart := List.all_eq_true.mp h r hr
  simp only [Bool.or_eq_true, Nat.blt_eq] at hapart
  simp only [Bool.and_eq_true, decide_eq_true_eq]
  omega

theorem RangeTable.contains_of_mem {table : RangeTable} {range : Nat × Nat} (h : range ∈ table)
    (hfirst : range.1 ≤ c.toNat) (hlast : c.toNat ≤ range.2) : table.contains c = true :=
  List.any_eq_true.mpr ⟨range, h, by simp [hfirst, hlast]⟩

/-- A table that has all letters below `80` or none does not tell a letter from its capital. -/
theorem RangeTable.contains_toLower {table : RangeTable}
    (h : (0x41, 0x5A) ∈ table ∧ (0x61, 0x7A) ∈ table ∨
      table.avoids (0x41, 0x5A) = true ∧ table.avoids (0x61, 0x7A) = true) :
    table.contains c.toLower = table.contains c := by
  rcases toLower_cases c with hc | ⟨hge, hle, hc⟩
  · rw [hc]
  · have hsmall : 0x61 ≤ c.toLower.toNat ∧ c.toLower.toNat ≤ 0x7A := by omega
    rcases h with ⟨hcapitals, hsmalls⟩ | ⟨hcapitals, hsmalls⟩
    · rw [contains_of_mem hcapitals hge hle, contains_of_mem hsmalls hsmall.1 hsmall.2]
    · rw [contains_of_avoids hcapitals hge hle, contains_of_avoids hsmalls hsmall.1 hsmall.2]

theorem isBlank_toLower (c : Char) : isBlank c.toLower = isBlank c :=
  RangeTable.contains_toLower (.inr (by decide))

theorem isCased_toLower (c : Char) : isCased c.toLower = isCased c :=
  RangeTable.contains_toLower (.inl (by simp [casedRanges]))

theorem isCaseIgnorable_toLower (c : Char) : isCaseIgnorable c.toLower = isCaseIgnorable c :=
  RangeTable.contains_toLower (.inr (by decide +kernel))

theorem lower_toLower (c : Char) : lower c.toLower = lower c := by
  rcases toLower_cases c with hc | ⟨-, hle, hc⟩
  · rw [hc]
  · rw [lower_of_ascii (by omega), lower_of_ascii (by omega), Char.toLower_toLower_eq_toLower]

theorem toLower_eq_iff_of_above (h : 0x7A < d.toNat) : c.toLower = d ↔ c = d := by
  rcases toLower_cases c with hc | ⟨-, hle, hc⟩
  · rw [hc]
  · constructor
    · rintro rfl
      omega
    · rintro rfl
      omega

theorem isBlank_of_mem_lower (hc : isBlank c = false) (h : d ∈ lower c) : isBlank d = false := by
  rcases lower_cases c with ⟨-, hlower⟩ | hlower | ⟨m, hm, hlower⟩ | hlower
  · rw [hlower, List.mem_singleton] at h
    rw [h, isBlank_toLower, hc]
  · rw [hlower, List.mem_pair] at h
    rcases h with rfl | rfl <;> rfl
  · rw [hlower, List.mem_singleton] at h
    rw [h, hm.isBlank_eq]
  · rw [hlower, List.mem_singleton] at h
    rw [h, hc]

/-! ## Texts -/

/-- What a character becomes between the characters passed, the last one first, and those to come. -/
def lowerBetween (before : List Char) (c : Char) (after : List Char) : List Char :=
  if c = 'Σ' then [if leadsToCased before && !leadsToCased after then 'ς' else 'σ'] else lower c

theorem lowerCaseAfter_cons (before : List Char) (c : Char) (after : List Char) :
    lowerCaseAfter before (c :: after) =
      lowerBetween before c after ++ lowerCaseAfter (c :: before) after := rfl

theorem lower_sigma : lower 'Σ' = ['σ'] := by
  decide +kernel

/-- Only the final sigma is not found in the table. -/
theorem eq_or_mem_lower (h : d ∈ lowerBetween before c after) :
    d = 'ς' ∨ d ∈ lower c := by
  unfold lowerBetween at h
  split_ifs at h with hc hfinal
  · exact .inl (List.mem_singleton.mp h)
  · rw [hc, lower_sigma]
    exact .inr h
  · exact .inr h

theorem lowerBetween_ne_nil (before : List Char) (c : Char) (after : List Char) :
    lowerBetween before c after ≠ [] := by
  unfold lowerBetween
  split
  · exact List.cons_ne_nil _ _
  · exact lower_ne_nil c

theorem lower_of_mem_lowerBetween (h : d ∈ lowerBetween before c after) :
    lower d = [d] := by
  rcases eq_or_mem_lower h with rfl | h
  · decide +kernel
  · exact lower_of_mem_lower h

theorem isBlank_of_mem_lowerBetween (hc : isBlank c = false)
    (h : d ∈ lowerBetween before c after) : isBlank d = false := by
  rcases eq_or_mem_lower h with rfl | h
  · rfl
  · exact isBlank_of_mem_lower hc h

theorem lowerBetween_of_lower (h : lower c = [c]) (before after : List Char) :
    lowerBetween before c after = [c] := by
  have hsigma : c ≠ 'Σ' := by
    rintro rfl
    rw [lower_sigma] at h
    exact absurd h (by decide)
  rw [lowerBetween, if_neg hsigma, h]

theorem lower_of_mem_lowerCaseAfter (h : d ∈ lowerCaseAfter before s) : lower d = [d] := by
  induction s generalizing before with
  | nil => exact (List.not_mem_nil h).elim
  | cons c s ih =>
    rw [lowerCaseAfter_cons, List.mem_append] at h
    rcases h with h | h
    · exact lower_of_mem_lowerBetween h
    · exact ih h

theorem lowerCaseAfter_of_lower (h : ∀ c ∈ s, lower c = [c]) (before : List Char) :
    lowerCaseAfter before s = s := by
  induction s generalizing before with
  | nil => rfl
  | cons c s ih =>
    rw [List.forall_mem_cons] at h
    rw [lowerCaseAfter_cons, lowerBetween_of_lower h.1, ih h.2]
    rfl

theorem lowerCase_lowerCase (s : List Char) : lowerCase (lowerCase s) = lowerCase s :=
  lowerCaseAfter_of_lower (fun _ hd => lower_of_mem_lowerCaseAfter hd) []

/-! ## Words in lower case -/

/-- What a word becomes depends on the text around it, at a capital sigma, so that the text in front of it
is carried along. -/
theorem exists_lowerCaseAfter_append (hw : ∀ c ∈ w, isBlank c = false) (before rest : List Char) :
    ∃ v, w.length ≤ v.length ∧ (∀ d ∈ v, isBlank d = false) ∧
      lowerCaseAfter before (w ++ rest) = v ++ lowerCaseAfter (w.reverse ++ before) rest := by
  induction w generalizing before with
  | nil => exact ⟨[], Nat.le_refl 0, fun _ hd => (List.not_mem_nil hd).elim, rfl⟩
  | cons c w ih =>
    rw [List.forall_mem_cons] at hw
    obtain ⟨v, hlength, hv, heq⟩ := ih hw.2 (c :: before)
    refine ⟨lowerBetween before c (w ++ rest) ++ v, ?_, fun d hd => ?_, ?_⟩
    · have hpos := List.length_pos_of_ne_nil (lowerBetween_ne_nil before c (w ++ rest))
      rw [List.length_append, List.length_cons]
      omega
    · rcases List.mem_append.mp hd with hd | hd
      · exact isBlank_of_mem_lowerBetween hw.1 hd
      · exact hv d hd
    · rw [List.cons_append, lowerCaseAfter_cons, heq, List.append_assoc, List.reverse_cons,
        List.append_assoc]
      rfl

theorem exists_isWord_lowerCaseAfter (hw : IsWord w) (before rest : List Char) :
    ∃ v, IsWord v ∧
      lowerCaseAfter before (w ++ rest) = v ++ lowerCaseAfter (w.reverse ++ before) rest := by
  obtain ⟨v, hlength, hv, heq⟩ := exists_lowerCaseAfter_append hw.not_blank before rest
  have hpos := List.length_pos_of_ne_nil hw.ne_nil
  exact ⟨v, ⟨List.ne_nil_of_length_pos (by omega), hv⟩, heq⟩

theorem exists_lowerCaseAfter_intercalate (h : ∀ w ∈ ws, IsWord w) (before : List Char) :
    ∃ vs, vs.length = ws.length ∧ (∀ v ∈ vs, IsWord v) ∧
      lowerCaseAfter before ([' '].intercalate ws) = [' '].intercalate vs := by
  induction ws generalizing before with
  | nil => exact ⟨[], rfl, fun _ hv => (List.not_mem_nil hv).elim, rfl⟩
  | cons w ws ih =>
    rw [List.forall_mem_cons] at h
    cases ws with
    | nil =>
      obtain ⟨v, hv, heq⟩ := exists_isWord_lowerCaseAfter h.1 before []
      refine ⟨[v], rfl, List.forall_mem_singleton.mpr hv, ?_⟩
      rw [List.append_nil] at heq
      rw [List.intercalate_singleton, List.intercalate_singleton, heq]
      exact List.append_nil v
    | cons u us =>
      obtain ⟨v, hv, hfirst⟩ :=
        exists_isWord_lowerCaseAfter h.1 before (' ' :: [' '].intercalate (u :: us))
      obtain ⟨vs, hlength, hvs, hrest⟩ := ih h.2 (' ' :: (w.reverse ++ before))
      obtain ⟨v', vs', rfl⟩ := List.exists_cons_of_length_eq_add_one hlength
      refine ⟨v :: v' :: vs', by simpa using hlength, List.forall_mem_cons.mpr ⟨hv, hvs⟩, ?_⟩
      rw [List.intercalate_cons_cons, List.intercalate_cons_cons, List.append_assoc, List.append_assoc,
        List.singleton_append, hfirst, lowerCaseAfter_cons, lowerBetween_of_lower rfl, hrest]

/-! ## Capitals below `80` do not matter -/

theorem leadsToCased_map_toLower (s : List Char) :
    leadsToCased (s.map Char.toLower) = leadsToCased s := by
  have hsame : isCaseIgnorable ∘ Char.toLower = isCaseIgnorable := funext isCaseIgnorable_toLower
  unfold leadsToCased
  rw [List.dropWhile_map, hsame]
  cases s.dropWhile isCaseIgnorable with
  | nil => rfl
  | cons c _ => exact isCased_toLower c

theorem lowerBetween_map_toLower (before : List Char) (c : Char) (after : List Char) :
    lowerBetween (before.map Char.toLower) c.toLower (after.map Char.toLower) =
      lowerBetween before c after := by
  have hsigma : c.toLower = 'Σ' ↔ c = 'Σ' := toLower_eq_iff_of_above (by decide)
  simp only [lowerBetween, leadsToCased_map_toLower, lower_toLower, hsigma]

theorem lowerCaseAfter_map_toLower (before s : List Char) :
    lowerCaseAfter (before.map Char.toLower) (s.map Char.toLower) = lowerCaseAfter before s := by
  induction s generalizing before with
  | nil => rfl
  | cons c s ih =>
    rw [List.map_cons, lowerCaseAfter_cons, lowerCaseAfter_cons, lowerBetween_map_toLower]
    exact congrArg _ (ih (c :: before))

theorem lowerCase_map_toLower (s : List Char) : lowerCase (s.map Char.toLower) = lowerCase s :=
  lowerCaseAfter_map_toLower [] s

theorem lowerCaseAfter_of_ascii (h : ∀ c ∈ s, c.toNat < 0x80) (before : List Char) :
    lowerCaseAfter before s = s.map Char.toLower := by
  induction s generalizing before with
  | nil => rfl
  | cons c s ih =>
    rw [List.forall_mem_cons] at h
    have hsigma : c ≠ 'Σ' := by
      rintro rfl
      exact absurd h.1 (by decide)
    rw [lowerCaseAfter_cons, lowerBetween, if_neg hsigma, lower_of_ascii h.1, ih h.2]
    rfl

end ChainOfTrust.Text
