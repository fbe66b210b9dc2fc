import ChainOfTrust.Bytes

/-!
# Texts and their octets

* `Text.octets` : a text in UTF-8;
* `Bytes.utf8?_eq_some_iff` : octets are read as the one text they are the octets of;
* `Bytes.ofUtf8_eq` : the octets of a text, taken from its byte array one by one;
* `Bytes.ascii?_eq_some_iff` : the same for texts whose characters are all below `80`.
-/

namespace ChainOfTrust

set_option autoImplicit false

def Text.octets (s : String) : Bytes := s.toList.flatMap String.utf8EncodeChar

namespace Bytes

variable {b : Bytes} {s : String}

theorem toByteArray_eq_iff : b.toByteArray = s.toByteArray ↔ b = Text.octets s := by
  have hs : s.toByteArray = (Text.octets s).toByteArray := by
    rw [← String.ofList_toList (s := s), String.toByteArray_ofList, Text.octets,
      String.toList_ofList, List.utf8Encode]
  rw [hs]
  exact List.toByteArray_inj

theorem utf8?_eq_some_iff : utf8? b = some s ↔ b = Text.octets s := by
  rw [← toByteArray_eq_iff]
  unfold utf8? String.fromUTF8?
  constructor
  · intro hb
    split at hb
    · cases hb
      rfl
    · cases hb
  · intro hb
    rw [hb, dif_pos s.isValidUTF8]
    rfl

/-- The octets of a byte array from the `i`-th on, those read so far in front of them. -/
theorem toList_loop (a : ByteArray) (i : Nat) (r : List UInt8) :
    ByteArray.toList.loop a i r = r.reverse ++ a.data.toList.drop i := by
  induction i, r using ByteArray.toList.loop.induct a with
  | case1 i r hi ih =>
    have hlt : i < a.data.toList.length := hi
    have hget : a.get! i = a.data.toList[i] := getElem!_pos a.data i hi
    rw [ByteArray.toList.loop.eq_def, if_pos hi, ih, List.drop_eq_getElem_cons hlt, hget,
      List.reverse_cons, List.append_assoc]
    rfl
  | case2 i r hi =>
    have hle : a.data.toList.length ≤ i := Nat.not_lt.mp hi
    rw [ByteArray.toList.loop.eq_def, if_neg hi, List.drop_eq_nil_of_le hle, List.append_nil]

theorem ofUtf8_eq (s : String) : ofUtf8 s = Text.octets s := by
  have harray : (Text.octets s).toByteArray = s.toByteArray := toByteArray_eq_iff.mpr rfl
  have hdata : (Text.octets s).toByteArray.data.toList = Text.octets s := by simp
  show ByteArray.toList.loop s.toByteArray 0 [] = Text.octets s
  rw [toList_loop, ← harray]
  exact hdata

/-! ## ASCII -/

/-- The character with the code `x`. -/
def charOf (x : UInt8) : Char := Char.ofNat x.toNat

theorem toNat_charOf (x : UInt8) : (charOf x).toNat = x.toNat := by
  have hx : x.toNat.isValidChar := Or.inl (Nat.lt_trans x.toNat_lt (by decide))
  unfold charOf Char.ofNat
  rw [dif_pos hx]
  rfl

theorem utf8EncodeChar_charOf {x : UInt8} (hx : x < 0x80) :
    String.utf8EncodeChar (charOf x) = [x] := by
  have hx : (charOf x).val.toNat ≤ 127 := by
    have := UInt8.lt_iff_toNat_lt.mp hx
    have hval : (charOf x).val.toNat = x.toNat := toNat_charOf x
    rw [hval]
    exact Nat.le_of_lt_succ this
  unfold String.utf8EncodeChar
  rw [if_pos hx]
  show [UInt8.ofNat (charOf x).toNat] = [x]
  rw [toNat_charOf, UInt8.ofNat_toNat]

/-- Only a character below `80` has an octet below `80`. -/
theorem eq_charOf_of_mem {c : Char} {x : UInt8} (hx : x ∈ String.utf8EncodeChar c)
    (hlt : x < 0x80) : c = charOf x := by
  have hlow : x.toNat < 128 := UInt8.lt_iff_toNat_lt.mp hlt
  have hv := c.toNat_val
  unfold String.utf8EncodeChar at hx
  dsimp only at hx
  split at hx
  · rw [List.mem_singleton] at hx
    subst hx
    unfold charOf
    rw [UInt8.toNat_ofNat', Nat.mod_eq_of_lt (by omega)]
    exact (Char.ofNat_toNat c).symm
  · have hhigh : 128 ≤ x.toNat := by
      split at hx
      · simp only [List.mem_cons, List.not_mem_nil, or_false] at hx
        rcases hx with rfl | rfl <;> rw [UInt8.toNat_ofNat'] <;> omega
      · split at hx
        · simp only [List.mem_cons, List.not_mem_nil, or_false] at hx
          rcases hx with rfl | rfl | rfl <;> rw [UInt8.toNat_ofNat'] <;> omega
        · simp only [List.mem_cons, List.not_mem_nil, or_false] at hx
          rcases hx with rfl | rfl | rfl | rfl <;> rw [UInt8.toNat_ofNat'] <;> omega
    omega

theorem charOf_mem_of_mem_octets {t : String} {x : UInt8} (hx : x ∈ Text.octets t)
    (hlt : x < 0x80) : charOf x ∈ t.toList := by
  obtain ⟨c, hc, hxc⟩ := List.mem_flatMap.mp hx
  exact eq_charOf_of_mem hxc hlt ▸ hc

theorem exists_charOf {c : Char} (hc : c.toNat < 0x80) : ∃ x < 0x80, charOf x = c := by
  refine ⟨UInt8.ofNat c.toNat, ?_, ?_⟩
  · rw [UInt8.lt_iff_toNat_lt, UInt8.toNat_ofNat']
    exact Nat.lt_of_le_of_lt (Nat.mod_le _ _) hc
  · unfold charOf
    rw [UInt8.toNat_ofNat', Nat.mod_eq_of_lt (by omega), Char.ofNat_toNat]

theorem flatMap_charOf (hb : ∀ x ∈ b, x < 0x80) :
    (b.map charOf).flatMap String.utf8EncodeChar = b := by
  induction b with
  | nil => rfl
  | cons x b ih =>
    rw [List.map_cons, List.flatMap_cons, utf8EncodeChar_charOf (hb x List.mem_cons_self),
      ih fun y hy => hb y (List.mem_cons_of_mem x hy)]
    rfl

/-- A text of characters below `80` is that of one octet string. -/
theorem exists_eq_map_charOf (l : List Char) (hl : ∀ c ∈ l, c.toNat < 0x80) :
    ∃ b : Bytes, (∀ x ∈ b, x < 0x80) ∧ l = b.map charOf := by
  induction l with
  | nil => exact ⟨[], fun x hx => (List.not_mem_nil hx).elim, rfl⟩
  | cons c l ih =>
    obtain ⟨x, hx, hc⟩ := exists_charOf (hl c List.mem_cons_self)
    obtain ⟨b, hb, rfl⟩ := ih fun d hd => hl d (List.mem_cons_of_mem c hd)
    refine ⟨x :: b, fun y hy => ?_, by rw [List.map_cons, hc]⟩
    rcases List.mem_cons.mp hy with rfl | hy
    · exact hx
    · exact hb y hy

theorem lt_of_ascii? (hs : ascii? b = some s) : ∀ x ∈ b, x < 0x80 := by
  unfold ascii? at hs
  split at hs
  · rename_i hall
    simpa only [List.all_eq_true, decide_eq_true_eq] using hall
  · cases hs

theorem toList_of_ascii? (hs : ascii? b = some s) : s.toList = b.map charOf := by
  unfold ascii? at hs
  split at hs
  · rw [← Option.some.inj hs, String.toList_ofList]
    rfl
  · cases hs

theorem ascii?_eq_some_iff :
    ascii? b = some s ↔ (∀ c ∈ s.toList, c.toNat < 0x80) ∧ b = Text.octets s := by
  constructor
  · intro hb
    have hlt := lt_of_ascii? hb
    rw [Text.octets, toList_of_ascii? hb, flatMap_charOf hlt]
    refine ⟨List.forall_mem_map.mpr fun x hx => ?_, rfl⟩
    rw [toNat_charOf]
    exact UInt8.lt_iff_toNat_lt.mp (hlt x hx)
  · rintro ⟨hs, rfl⟩
    obtain ⟨b, hb, hl⟩ := exists_eq_map_charOf s.toList hs
    have hall : b.all (· < 0x80) = true := by
      simp only [List.all_eq_true, decide_eq_true_eq]
      exact hb
    unfold ascii?
    rw [Text.octets, hl, flatMap_charOf hb, if_pos hall]
    exact congrArg some (String.toList_inj.mp (by rw [String.toList_ofList, hl]; rfl))

end Bytes

end ChainOfTrust
