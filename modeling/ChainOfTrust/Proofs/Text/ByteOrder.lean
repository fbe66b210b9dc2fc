import ChainOfTrust.Proofs.Text.Utf8
import Mathlib.Data.String.Basic

/-!
# Texts in the order of their octets

UTF-8 keeps the order of code points: the first octet tells how many follow, and longer forms start
with larger ones.

* `Bytes.utf8EncodeChar_append_lt` : two characters, whatever follows them;
* `Text.octets_lt_iff` : two texts.
-/

namespace ChainOfTrust

set_option autoImplicit false

namespace Bytes

variable {m n : Nat} {s t : Bytes}

theorem ofNat_cons_lt (hn : n < 256) (h : m < n) (s t : Bytes) :
    UInt8.ofNat m :: s < UInt8.ofNat n :: t := by
  rw [List.cons_lt_cons_iff, UInt8.lt_iff_toNat_lt, UInt8.toNat_ofNat', UInt8.toNat_ofNat']
  omega

theorem ofNat_cons_le (hn : n < 256) (h : m ≤ n) (hst : m = n → s < t) :
    UInt8.ofNat m :: s < UInt8.ofNat n :: t := by
  rcases Nat.lt_or_eq_of_le h with h | rfl
  · exact ofNat_cons_lt hn h s t
  · exact List.cons_lt_cons_iff.mpr (.inr ⟨rfl, hst rfl⟩)

/-- The octets of characters are in the order of the characters. -/
theorem utf8EncodeChar_append_lt {c d : Char} (h : c < d) (s t : Bytes) :
    String.utf8EncodeChar c ++ s < String.utf8EncodeChar d ++ t := by
  have hlt : c.val.toNat < d.val.toNat := h
  have hd : d.val.toNat < 0x110000 := by
    have := d.valid
    unfold UInt32.isValidChar Nat.isValidChar at this
    omega
  unfold String.utf8EncodeChar
  dsimp only
  split
  · split
    · exact ofNat_cons_lt (by omega) hlt _ _
    · split
      · exact ofNat_cons_lt (by omega) (by omega) _ _
      · split
        · exact ofNat_cons_lt (by omega) (by omega) _ _
        · exact ofNat_cons_lt (by omega) (by omega) _ _
  · split
    · rw [if_neg (by omega)]
      split
      · exact ofNat_cons_le (by omega) (by omega) fun hlead =>
          ofNat_cons_lt (by omega) (by omega) _ _
      · split
        · exact ofNat_cons_lt (by omega) (by omega) _ _
        · exact ofNat_cons_lt (by omega) (by omega) _ _
    · split
      · rw [if_neg (by omega), if_neg (by omega)]
        split
        · exact ofNat_cons_le (by omega) (by omega) fun hlead =>
            ofNat_cons_le (by omega) (by omega) fun hnext =>
              ofNat_cons_lt (by omega) (by omega) _ _
        · exact ofNat_cons_lt (by omega) (by omega) _ _
      · rw [if_neg (by omega), if_neg (by omega), if_neg (by omega)]
        exact ofNat_cons_le (by omega) (by omega) fun hlead =>
          ofNat_cons_le (by omega) (by omega) fun hnext =>
            ofNat_cons_le (by omega) (by omega) fun hthird =>
              ofNat_cons_lt (by omega) (by omega) _ _

end Bytes

namespace Text

variable {s t : String}

theorem flatMap_lt_of_lt {l m : List Char} (h : l < m) :
    l.flatMap String.utf8EncodeChar < m.flatMap String.utf8EncodeChar := by
  induction l generalizing m with
  | nil =>
    cases m with
    | nil => exact absurd h (List.not_lt_nil _)
    | cons d m =>
      rw [List.flatMap_cons]
      have hne := String.utf8EncodeChar_ne_nil (c := d)
      rcases hd : String.utf8EncodeChar d with _ | ⟨x, u⟩
      · exact (hne hd).elim
      · exact List.nil_lt_cons _ _
  | cons c l ih =>
    cases m with
    | nil => exact absurd h (List.not_lt_nil _)
    | cons d m =>
      rw [List.flatMap_cons, List.flatMap_cons]
      rcases List.cons_lt_cons_iff.mp h with hc | ⟨rfl, hl⟩
      · exact Bytes.utf8EncodeChar_append_lt hc _ _
      · exact List.append_left_lt (ih hl)

/-- Texts are in the order of their octets. -/
theorem octets_lt_iff : octets s < octets t ↔ s < t := by
  have hlt {s t : String} (h : s < t) : octets s < octets t :=
    flatMap_lt_of_lt (String.lt_iff_toList_lt.mp h)
  constructor
  · intro h
    rcases lt_trichotomy s t with hst | rfl | hst
    · exact hst
    · exact absurd h (List.lt_irrefl _)
    · exact absurd (hlt hst) (List.lt_asymm h)
  · exact hlt

end Text

end ChainOfTrust
