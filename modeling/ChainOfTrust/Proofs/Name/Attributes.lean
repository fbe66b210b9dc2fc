import ChainOfTrust.Proofs.Text.Utf8
import ChainOfTrust.X509.Name

/-!
# When attributes match

* `Reads e s` : the element `e` is of one of the three string types and holds the text `s`;
* `matchedText?_eq_some_iff` : that text is what values are matched by;
* `SameValue`, `Matches` : values that match, and attributes that do, which also have one type;
* `Attribute.form_eq_iff` : the form of an attribute tells which others it matches.
-/

namespace ChainOfTrust.X509

set_option autoImplicit false

open Der (Element)
open Bytes (charOf)

variable {e : Element} {s : String} {a b : Attribute}

/-! ## Texts of values -/

def isPrintableChar (c : Char) : Bool :=
  ('A' ≤ c && c ≤ 'Z') || ('a' ≤ c && c ≤ 'z') || ('0' ≤ c && c ≤ '9') ||
    " '()+,-./:=?".toList.contains c

inductive Reads : Element → String → Prop
  | printable (s : String) (hs : ∀ c ∈ s.toList, isPrintableChar c) :
      Reads ⟨Der.Tag.printableString, Text.octets s⟩ s
  | utf8 (s : String) : Reads ⟨Der.Tag.utf8String, Text.octets s⟩ s
  | ia5 (s : String) (hs : ∀ c ∈ s.toList, c.toNat < 0x80) :
      Reads ⟨Der.Tag.ia5String, Text.octets s⟩ s

theorem isPrintable_iff (x : UInt8) :
    isPrintable x = true ↔ x < 0x80 ∧ isPrintableChar (charOf x) = true := by
  have hall : ∀ n < 256, isPrintable (UInt8.ofNat n) =
      (decide (UInt8.ofNat n < 0x80) && isPrintableChar (charOf (UInt8.ofNat n))) := by
    decide +kernel
  have hx := hall x.toNat x.toNat_lt
  rw [UInt8.ofNat_toNat] at hx
  rw [hx, Bool.and_eq_true, decide_eq_true_eq]

theorem lt_of_isPrintableChar {c : Char} (hc : isPrintableChar c = true) : c.toNat < 0x80 := by
  have hle : ∀ d : Char, d.toNat < 0x80 → c ≤ d → c.toNat < 0x80 :=
    fun d hd hcd => Nat.lt_of_le_of_lt (UInt32.le_iff_toNat_le.mp hcd) hd
  unfold isPrintableChar at hc
  simp only [Bool.or_eq_true, Bool.and_eq_true, decide_eq_true_eq] at hc
  rcases hc with ((⟨-, hc⟩ | ⟨-, hc⟩) | ⟨-, hc⟩) | hc
  · exact hle 'Z' (by decide) hc
  · exact hle 'z' (by decide) hc
  · exact hle '9' (by decide) hc
  · have hall : " '()+,-./:=?".toList.all (fun d => decide (d.toNat < 0x80)) = true := by
      decide
    exact decide_eq_true_eq.mp (List.all_eq_true.mp hall c (List.contains_iff_mem.mp hc))

theorem all_isPrintable_iff {content : Bytes} (hs : Bytes.ascii? content = some s) :
    content.all isPrintable = true ↔ ∀ c ∈ s.toList, isPrintableChar c = true := by
  rw [Bytes.toList_of_ascii? hs, List.all_eq_true, List.forall_mem_map]
  refine forall₂_congr fun x hx => ?_
  rw [isPrintable_iff]
  exact and_iff_right (Bytes.lt_of_ascii? hs x hx)

/-- Values are matched by the text they hold. -/
theorem matchedText?_eq_some_iff : matchedText? e = some s ↔ Reads e s := by
  constructor
  · intro he
    obtain ⟨tag, content⟩ := e
    unfold matchedText? at he
    split at he
    · rename_i htag
      obtain rfl : tag = Der.Tag.printableString := htag
      split at he
      · rename_i hall
        have hs := (all_isPrintable_iff he).mp hall
        obtain ⟨-, rfl⟩ := Bytes.ascii?_eq_some_iff.mp he
        exact .printable s hs
      · cases he
    · split at he
      · rename_i htag
        obtain rfl : tag = Der.Tag.utf8String := htag
        obtain rfl := Bytes.utf8?_eq_some_iff.mp he
        exact .utf8 s
      · split at he
        · rename_i htag
          obtain rfl : tag = Der.Tag.ia5String := htag
          obtain ⟨hs, rfl⟩ := Bytes.ascii?_eq_some_iff.mp he
          exact .ia5 s hs
        · cases he
  · intro he
    cases he with
    | printable s hs =>
      have hascii : Bytes.ascii? (Text.octets s) = some s :=
        Bytes.ascii?_eq_some_iff.mpr ⟨fun c hc => lt_of_isPrintableChar (hs c hc), rfl⟩
      unfold matchedText?
      rw [if_pos rfl, if_pos ((all_isPrintable_iff hascii).mpr hs), hascii]
    | utf8 s =>
      unfold matchedText?
      rw [if_neg (by decide : Der.Tag.utf8String ≠ Der.Tag.printableString), if_pos rfl]
      exact Bytes.utf8?_eq_some_iff.mpr rfl
    | ia5 s hs =>
      unfold matchedText?
      rw [if_neg (by decide : Der.Tag.ia5String ≠ Der.Tag.printableString),
        if_neg (by decide : Der.Tag.ia5String ≠ Der.Tag.utf8String), if_pos rfl]
      exact Bytes.ascii?_eq_some_iff.mpr ⟨hs, rfl⟩

/-! ## Matching -/

inductive SameValue : Element → Element → Prop
  | text {u v : Element} {s t : String} (hu : Reads u s) (hv : Reads v t)
      (h : Text.lowerCase (Text.collapse s.toList) = Text.lowerCase (Text.collapse t.toList)) :
      SameValue u v
  | other {u v : Element} (hu : ∀ s, ¬ Reads u s) (hv : ∀ s, ¬ Reads v s) (htag : u.tag = v.tag)
      (hcontent : u.content = v.content) : SameValue u v

structure Matches (a b : Attribute) : Prop where
  type : a.type.text = b.type.text
  value : SameValue a.value b.value

theorem normalize_eq_iff {s t : String} : Text.normalize s = Text.normalize t ↔
    Text.lowerCase (Text.collapse s.toList) = Text.lowerCase (Text.collapse t.toList) := by
  unfold Text.normalize
  exact String.ofList_inj

namespace Attribute

theorem form_of_reads (hs : Reads a.value s) :
    a.form = ⟨a.type.text, .text (Text.normalize s)⟩ := by
  unfold form
  rw [matchedText?_eq_some_iff.mpr hs]

theorem form_of_not_reads (hs : ∀ s, ¬ Reads a.value s) :
    a.form = ⟨a.type.text, .raw a.value.tag a.value.content⟩ := by
  have hnone : matchedText? a.value = none :=
    Option.eq_none_iff_forall_ne_some.mpr fun s h => hs s (matchedText?_eq_some_iff.mp h)
  unfold form
  rw [hnone]

theorem form_eq_iff : a.form = b.form ↔ Matches a b := by
  constructor
  · intro hform
    by_cases ha : ∃ s, Reads a.value s
    · obtain ⟨s, hs⟩ := ha
      by_cases hb : ∃ t, Reads b.value t
      · obtain ⟨t, ht⟩ := hb
        rw [form_of_reads hs, form_of_reads ht, Form.mk.injEq, FormValue.text.injEq] at hform
        exact ⟨hform.1, .text hs ht (normalize_eq_iff.mp hform.2)⟩
      · rw [form_of_reads hs, form_of_not_reads (not_exists.mp hb), Form.mk.injEq] at hform
        exact nomatch hform.2
    · by_cases hb : ∃ t, Reads b.value t
      · obtain ⟨t, ht⟩ := hb
        rw [form_of_not_reads (not_exists.mp ha), form_of_reads ht, Form.mk.injEq] at hform
        exact nomatch hform.2
      · rw [form_of_not_reads (not_exists.mp ha), form_of_not_reads (not_exists.mp hb),
          Form.mk.injEq, FormValue.raw.injEq] at hform
        obtain ⟨htype, htag, hcontent⟩ := hform
        exact ⟨htype, .other (not_exists.mp ha) (not_exists.mp hb) htag hcontent⟩
  · rintro ⟨htype, hvalue⟩
    rcases hvalue with ⟨hu, hv, h⟩ | ⟨hu, hv, htag, hcontent⟩
    · rw [form_of_reads hu, form_of_reads hv, htype, normalize_eq_iff.mpr h]
    · rw [form_of_not_reads hu, form_of_not_reads hv, htype, htag, hcontent]

end Attribute

instance : DecidableRel Matches := fun _ _ => decidable_of_iff _ Attribute.form_eq_iff

end ChainOfTrust.X509
