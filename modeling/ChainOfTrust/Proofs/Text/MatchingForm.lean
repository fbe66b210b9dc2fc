import ChainOfTrust.Proofs.Text.LowerCase

/-!
# Texts that match

* `SameWords ws vs` : as many words in both lists, the same one by one but for capitals below `80`;
* `Varies s t` : the same words with any white space between and around them;
* `lowerCase_collapse_congr` : the matching form depends on nothing but the words without their capitals
  below `80`;
* `normalize_matches` : the matching form is its own, tidy, the same for texts that vary, and below `80`
  the same for no other texts.
-/

namespace ChainOfTrust.Text

set_option autoImplicit false

variable {s t : List Char} {ws vs : List (List Char)}

/-! ## The same words -/

def SameWord : List Char → List Char → Prop := List.Forall₂ fun c d => c.toLower = d.toLower

def SameWords : List (List Char) → List (List Char) → Prop := List.Forall₂ SameWord

def smallWords (ws : List (List Char)) : List (List Char) := ws.map (List.map Char.toLower)

theorem sameWord_iff {w v : List Char} :
    SameWord w v ↔ w.map Char.toLower = v.map Char.toLower := by
  rw [← List.forall₂_eq_eq_eq, List.forall₂_map_left_iff, List.forall₂_map_right_iff, SameWord]

theorem sameWords_iff : SameWords ws vs ↔ smallWords ws = smallWords vs := by
  rw [smallWords, smallWords, ← List.forall₂_eq_eq_eq, List.forall₂_map_left_iff,
    List.forall₂_map_right_iff, SameWords]
  exact ⟨.imp fun _ _ => sameWord_iff.mp, .imp fun _ _ => sameWord_iff.mpr⟩

theorem isWord_of_mem_smallWords (h : ∀ w ∈ ws, IsWord w) : ∀ v ∈ smallWords ws, IsWord v := by
  intro v hv
  obtain ⟨w, hw, rfl⟩ := List.mem_map.mp hv
  refine ⟨fun hnil => (h w hw).ne_nil (List.map_eq_nil_iff.mp hnil), fun d hd => ?_⟩
  obtain ⟨c, hc, rfl⟩ := List.mem_map.mp hd
  rw [isBlank_toLower]
  exact (h w hw).not_blank c hc

/-! ## The same text but for white space and capitals -/

/-- Runs of white space replaced by other runs, white space put or left out at the ends, and letters
below `80` put in the other case. -/
def Varies (s t : List Char) : Prop := ∃ ws vs, Spaced ws s ∧ Spaced vs t ∧ SameWords ws vs

theorem varies_iff : Varies s t ↔ SameWords (words s) (words t) := by
  constructor
  · rintro ⟨ws, vs, hs, ht, h⟩
    rwa [hs.words_eq, ht.words_eq]
  · intro h
    exact ⟨words s, words t, spaced_iff.mpr rfl, spaced_iff.mpr rfl, h⟩

/-! ## The matching form -/

theorem map_toLower_collapse (s : List Char) :
    (collapse s).map Char.toLower = [' '].intercalate (smallWords (words s)) :=
  map_intercalate Char.toLower rfl (words s)

theorem lowerCase_collapse_congr (h : SameWords (words s) (words t)) :
    lowerCase (collapse s) = lowerCase (collapse t) := by
  rw [← lowerCase_map_toLower (collapse s), ← lowerCase_map_toLower (collapse t),
    map_toLower_collapse, map_toLower_collapse, sameWords_iff.mp h]

/-- The matching form is made of words as well, as many as there were. -/
theorem exists_lowerCase_collapse (s : List Char) :
    ∃ vs, vs.length = (words s).length ∧ (∀ v ∈ vs, IsWord v) ∧
      lowerCase (collapse s) = [' '].intercalate vs :=
  exists_lowerCaseAfter_intercalate (fun _ hw => isWord_of_mem_words hw) []

theorem lowerCase_collapse_idem (s : List Char) :
    lowerCase (collapse (lowerCase (collapse s))) = lowerCase (collapse s) := by
  obtain ⟨vs, -, hvs, heq⟩ := exists_lowerCase_collapse s
  have hcollapse : collapse (lowerCase (collapse s)) = lowerCase (collapse s) := by
    rw [heq, collapse_intercalate hvs]
  rw [hcollapse, lowerCase_lowerCase]

theorem tidy_lowerCase_collapse (s : List Char) : Tidy (lowerCase (collapse s)) := by
  obtain ⟨vs, -, hvs, heq⟩ := exists_lowerCase_collapse s
  rw [heq]
  exact tidy_intercalate hvs

theorem lowerCase_collapse_of_ascii (h : ∀ c ∈ s, c.toNat < 0x80) :
    lowerCase (collapse s) = [' '].intercalate (smallWords (words s)) := by
  have hcollapse : ∀ c ∈ collapse s, c.toNat < 0x80 := by
    intro c hc
    rcases mem_of_mem_collapse hc with rfl | hc
    · decide
    · exact h c hc
  rw [lowerCase, lowerCaseAfter_of_ascii hcollapse, map_toLower_collapse]

theorem lowerCase_collapse_eq_iff (hs : ∀ c ∈ s, c.toNat < 0x80) (ht : ∀ c ∈ t, c.toNat < 0x80) :
    lowerCase (collapse s) = lowerCase (collapse t) ↔ SameWords (words s) (words t) := by
  rw [lowerCase_collapse_of_ascii hs, lowerCase_collapse_of_ascii ht, sameWords_iff]
  exact intercalate_inj (isWord_of_mem_smallWords fun _ hw => isWord_of_mem_words hw)
    (isWord_of_mem_smallWords fun _ hw => isWord_of_mem_words hw)

/-! ## Matching -/

theorem toList_normalize (s : String) : (normalize s).toList = lowerCase (collapse s.toList) :=
  String.toList_ofList

/-- **The matching form of a text is its own matching form and has no white space but single spaces
between words; texts that differ in nothing but white space between and around words and capitals below
`80` have the same, and among texts below `80` only these.** -/
theorem normalize_matches :
    (∀ s : String, normalize (normalize s) = normalize s ∧ Tidy (normalize s).toList) ∧
    (∀ s t : String, Varies s.toList t.toList → normalize s = normalize t) ∧
    (∀ s t : String, (∀ c ∈ s.toList, c.toNat < 0x80) → (∀ c ∈ t.toList, c.toNat < 0x80) →
      (normalize s = normalize t ↔ Varies s.toList t.toList) ∧
        (normalize s = normalize t ↔ SameWords (words s.toList) (words t.toList))) := by
  refine ⟨fun s => ⟨?_, ?_⟩, fun s t h => ?_, fun s t hs ht => ?_⟩
  · rw [← String.toList_inj, toList_normalize, toList_normalize, lowerCase_collapse_idem]
  · rw [toList_normalize]
    exact tidy_lowerCase_collapse s.toList
  · rw [← String.toList_inj, toList_normalize, toList_normalize]
    exact lowerCase_collapse_congr (varies_iff.mp h)
  · rw [varies_iff, and_self, ← String.toList_inj, toList_normalize, toList_normalize]
    exact lowerCase_collapse_eq_iff hs ht

/-- A name in another layout, with a capital sigma at the end of a word, and two names below `80` of
which one is a word longer. -/
theorem normalize_gateway :
    (Varies " ΟΔΟΣ \t Gateway CA".toList "ΟΔΟΣ gateway\u00a0Ca  ".toList ∧
      normalize " ΟΔΟΣ \t Gateway CA" = normalize "ΟΔΟΣ gateway\u00a0Ca  ") ∧
    normalize "Gateway   CA" = normalize "gateway ca" ∧
    normalize "Gateway CA" ≠ normalize "GatewayCA" := by
  have hvaries : Varies " ΟΔΟΣ \t Gateway CA".toList "ΟΔΟΣ gateway\u00a0Ca  ".toList :=
    varies_iff.mpr (sameWords_iff.mpr (by decide +kernel))
  refine ⟨⟨hvaries, normalize_matches.2.1 _ _ hvaries⟩, ?_, fun h => ?_⟩
  · have hsame : Varies "Gateway   CA".toList "gateway ca".toList :=
      varies_iff.mpr (sameWords_iff.mpr (by decide +kernel))
    exact (normalize_matches.2.2 _ _ (by simp) (by simp)).1.mpr hsame
  · have hsame := (normalize_matches.2.2 _ _ (by simp) (by simp)).2.mp h
    exact absurd (sameWords_iff.mp hsame) (by decide +kernel)

end ChainOfTrust.Text
