import Mathlib.Data.List.Induction
import Mathlib.Tactic.NormNum
import ChainOfTrust.Der.Value

/-!
# Canonical encodings

There is one way to write an element, so what is read can be written back.

* `Bytes.ofNat_toNat`, `Bytes.toNat_ofNat` : big-endian numbers of a fixed width;
* `readLength?_eq_some_iff`, `readHeader?_eq_some_iff`, `read?_eq_some_iff` : what is read is an
  encoding, and what follows it;
* `Element.header` : the octets of an element in front of its content;
* `eq_of_allWithin`, `eq_of_sequence?` : the same for a run of elements and for a sequence;
* `BitString.toElement` : the element that a bit string is read from.
-/

namespace ChainOfTrust

set_option autoImplicit false

/-! ## Big-endian numbers -/

namespace Bytes

theorem toNat_append_singleton (b : Bytes) (x : UInt8) :
    toNat (b ++ [x]) = toNat b * 256 + x.toNat := by
  simp [toNat, List.foldl_append]

theorem ofNat_toNat (b : Bytes) : ofNat b.length (toNat b) = b := by
  induction b using List.reverseRecOn with
  | nil => rfl
  | append_singleton b x ih =>
    have hx : x.toNat < 256 := x.toNat_lt
    have hdiv : (toNat b * 256 + x.toNat) / 256 = toNat b := by omega
    have hmod : UInt8.ofNat (toNat b * 256 + x.toNat) = x := by
      apply UInt8.toNat_inj.mp
      rw [UInt8.toNat_ofNat']
      omega
    rw [List.length_append, List.length_singleton, ofNat, toNat_append_singleton, hdiv, ih, hmod]

theorem toNat_ofNat {width n : Nat} (h : n < 256 ^ width) : toNat (ofNat width n) = n := by
  induction width generalizing n with
  | zero =>
    obtain rfl : n = 0 := by omega
    rfl
  | succ width ih =>
    rw [Nat.pow_succ] at h
    rw [ofNat, toNat_append_singleton, ih (by omega), UInt8.toNat_ofNat']
    omega

end Bytes

namespace Der

variable {s rest : Bytes} {n : Nat} {t : UInt8}

/-! ## Lengths -/

theorem lengthExtra_le (n : Nat) : lengthExtra n ≤ 4 := by
  unfold lengthExtra
  split_ifs <;> omega

theorem lengthExtra_eq_zero_iff : lengthExtra n = 0 ↔ n < 0x80 := by
  constructor
  · intro h
    unfold lengthExtra at h
    split_ifs at h
    assumption
  · intro h
    rw [lengthExtra, if_pos h]

theorem lt_pow_lengthExtra (hn : n ≤ maxLength) (hlong : 0x80 ≤ n) : n < 256 ^ lengthExtra n := by
  unfold maxLength at hn
  unfold lengthExtra
  split_ifs <;> omega

theorem encodeLength_of_lt (h : n < 0x80) : encodeLength n = [UInt8.ofNat n] := by
  unfold encodeLength
  rw [if_pos (lengthExtra_eq_zero_iff.mpr h)]

theorem encodeLength_of_le (h : 0x80 ≤ n) :
    encodeLength n = UInt8.ofNat (0x80 + lengthExtra n) :: Bytes.ofNat (lengthExtra n) n := by
  unfold encodeLength
  rw [if_neg fun h0 => absurd (lengthExtra_eq_zero_iff.mp h0) (by omega)]

theorem length_encodeLength (n : Nat) : (encodeLength n).length = 1 + lengthExtra n := by
  by_cases h : n < 0x80
  · rw [encodeLength_of_lt h, lengthExtra_eq_zero_iff.mpr h]
    rfl
  · rw [encodeLength_of_le (by omega), List.length_cons, Bytes.length_ofNat, Nat.add_comm]

theorem eq_of_readLength? (h : readLength? s = some (n, rest)) :
    s = encodeLength n ++ rest ∧ n ≤ maxLength := by
  unfold readLength? readLengthUpTo? at h
  cases s with
  | nil => cases h
  | cons b s =>
    simp only at h
    split at h
    · rename_i hb
      obtain ⟨rfl, rfl⟩ := Prod.mk.inj (Option.some.inj h)
      have hb : b.toNat < 0x80 := UInt8.lt_iff_toNat_lt.mp hb
      refine ⟨?_, by unfold maxLength; omega⟩
      rw [encodeLength_of_lt hb, UInt8.ofNat_toNat, List.singleton_append]
    · split at h
      · rename_i hb hform
        obtain ⟨rfl, rfl⟩ := Prod.mk.inj (Option.some.inj h)
        obtain ⟨hpos, -, hlen, hmax, hextra⟩ := hform
        refine ⟨?_, hmax⟩
        -- the digits are those that the number is written with at their own width
        have hdigits := Bytes.ofNat_toNat (s.take (b.toNat - 0x80))
        have hlong : 0x80 ≤ Bytes.toNat (s.take (b.toNat - 0x80)) := by
          by_contra hshort
          rw [lengthExtra_eq_zero_iff.mpr (by omega)] at hextra
          omega
        rw [hlen] at hdigits
        rw [encodeLength_of_le hlong, hextra, hdigits,
          show 0x80 + (b.toNat - 0x80) = b.toNat by omega, UInt8.ofNat_toNat, List.cons_append,
          List.take_append_drop]
      · cases h

theorem readLength?_encodeLength (hn : n ≤ maxLength) (rest : Bytes) :
    readLength? (encodeLength n ++ rest) = some (n, rest) := by
  unfold readLength?
  by_cases hshort : n < 0x80
  · have hb : (UInt8.ofNat n).toNat = n := by
      rw [UInt8.toNat_ofNat']
      omega
    rw [encodeLength_of_lt hshort, List.singleton_append, readLengthUpTo?,
      if_pos (UInt8.lt_iff_toNat_lt.mpr (by rw [hb]; exact hshort)), hb]
  · have hextra := lengthExtra_le n
    have hpos : lengthExtra n ≠ 0 := mt lengthExtra_eq_zero_iff.mp hshort
    have hb : (UInt8.ofNat (0x80 + lengthExtra n)).toNat = 0x80 + lengthExtra n := by
      rw [UInt8.toNat_ofNat']
      omega
    have hlong : ¬ UInt8.ofNat (0x80 + lengthExtra n) < 0x80 := by
      rw [UInt8.lt_iff_toNat_lt, hb]
      exact Nat.not_lt.mpr (Nat.le_add_right _ _)
    have htake : (Bytes.ofNat (lengthExtra n) n ++ rest).take (lengthExtra n) =
        Bytes.ofNat (lengthExtra n) n := List.take_left' (Bytes.length_ofNat _ _)
    rw [encodeLength_of_le (by omega), List.cons_append, readLengthUpTo?, if_neg hlong]
    simp only [hb, Nat.add_sub_cancel_left, htake, Bytes.length_ofNat,
      Bytes.toNat_ofNat (lt_pow_lengthExtra hn (by omega))]
    rw [if_pos ⟨by omega, hextra, trivial, hn, trivial⟩, List.drop_left' (Bytes.length_ofNat _ _)]

theorem readLength?_eq_some_iff :
    readLength? s = some (n, rest) ↔ s = encodeLength n ++ rest ∧ n ≤ maxLength := by
  constructor
  · exact eq_of_readLength?
  · rintro ⟨rfl, hn⟩
    exact readLength?_encodeLength hn rest

/-! ## Elements -/

namespace Element

variable {e : Element} {es : List Element}

theorem readHeader?_eq_some_iff :
    readHeader? s = some ((t, n), rest) ↔
      s = t :: (encodeLength n ++ rest) ∧ Tag.isKnown t = true ∧ n ≤ maxLength := by
  cases s with
  | nil => simp [readHeader?]
  | cons b s =>
    by_cases hb : Tag.isKnown b = true
    · rw [readHeader?, if_pos hb, Option.map_eq_some_iff]
      constructor
      · rintro ⟨⟨m, tail⟩, hread, heq⟩
        cases heq
        obtain ⟨rfl, hn⟩ := readLength?_eq_some_iff.mp hread
        exact ⟨rfl, hb, hn⟩
      · rintro ⟨heq, -, hn⟩
        cases heq
        exact ⟨(n, rest), readLength?_encodeLength hn rest, rfl⟩
    · rw [readHeader?, if_neg hb]
      constructor
      · exact nofun
      · rintro ⟨heq, ht, -⟩
        cases heq
        exact absurd ht hb

def header (e : Element) : Bytes := e.tag :: encodeLength e.content.length

theorem encode_eq (e : Element) : e.encode = e.header ++ e.content := rfl

theorem length_header (e : Element) : e.header.length = 2 + lengthExtra e.content.length := by
  rw [header, List.length_cons, length_encodeLength]
  omega

/-- The header of an element that is written in front of other octets. -/
theorem readHeader?_encode (ht : Tag.isKnown e.tag = true) (hn : e.content.length ≤ maxLength)
    (rest : Bytes) :
    readHeader? (e.encode ++ rest) = some ((e.tag, e.content.length), e.content ++ rest) := by
  refine readHeader?_eq_some_iff.mpr ⟨?_, ht, hn⟩
  rw [encode_eq, header, List.append_assoc, List.cons_append]

theorem read?_eq_some_iff :
    read? s = some (e, rest) ↔
      s = e.encode ++ rest ∧ Tag.isKnown e.tag = true ∧ e.content.length ≤ maxLength := by
  constructor
  · intro h
    unfold read? at h
    obtain ⟨⟨⟨t, n⟩, body⟩, hheader, h⟩ := Option.bind_eq_some_iff.mp h
    simp only at h
    split at h
    · rename_i hlen
      cases h
      obtain ⟨rfl, ht, hn⟩ := readHeader?_eq_some_iff.mp hheader
      refine ⟨?_, ht, by rw [hlen]; exact hn⟩
      rw [encode, hlen, List.cons_append, List.append_assoc, List.take_append_drop]
    · cases h
  · rintro ⟨rfl, ht, hn⟩
    unfold read?
    rw [readHeader?_encode ht hn]
    simp

theorem only?_eq_some_iff : only? s = some e ↔ read? s = some (e, []) := by
  unfold only?
  rcases read? s with _ | ⟨d, _ | ⟨b, tail⟩⟩ <;> simp

theorem eq_encode_of_only? (h : only? s = some e) : s = e.encode := by
  rw [(read?_eq_some_iff.mp (only?_eq_some_iff.mp h)).1, List.append_nil]

theorem only?_encode (ht : Tag.isKnown e.tag = true) (hn : e.content.length ≤ maxLength) :
    only? e.encode = some e := by
  rw [only?_eq_some_iff, read?_eq_some_iff]
  exact ⟨(List.append_nil _).symm, ht, hn⟩

/-! ## Runs of elements -/

theorem eq_of_allWithin {fuel : Nat} (h : allWithin fuel s = some es) : s = es.flatMap encode := by
  induction fuel generalizing s es with
  | zero =>
    cases s with
    | nil =>
      cases h
      rfl
    | cons b s => cases h
  | succ fuel ih =>
    cases s with
    | nil =>
      cases h
      rfl
    | cons b s =>
      obtain ⟨⟨e, rest⟩, hread, h⟩ := Option.bind_eq_some_iff.mp h
      obtain ⟨ds, hall, h⟩ := Option.bind_eq_some_iff.mp h
      cases h
      rw [(read?_eq_some_iff.mp hread).1, List.flatMap_cons, ih hall]

/-! ## Values -/

theorem expect?_eq_some_iff {content : Bytes} : e.expect? t = some content ↔ e = ⟨t, content⟩ := by
  obtain ⟨tag, octets⟩ := e
  unfold expect?
  by_cases h : tag = t
  · simp [h]
  · simp [h]

/-- A sequence is written by writing its parts. -/
theorem eq_of_sequence? (h : e.sequence? = some es) :
    e = ⟨Tag.sequence, es.flatMap encode⟩ := by
  obtain ⟨content, htag, hall⟩ := Option.bind_eq_some_iff.mp h
  obtain rfl := eq_of_allWithin hall
  exact expect?_eq_some_iff.mp htag

theorem eq_of_oid? {o : Oid} (h : e.oid? = some o) : e = ⟨Tag.oid, o.content⟩ := by
  obtain ⟨content, htag, ho⟩ := Option.bind_eq_some_iff.mp h
  unfold Oid.ofContent? at ho
  split at ho
  · cases ho
    exact expect?_eq_some_iff.mp htag
  · cases ho

end Element

def BitString.toElement (b : BitString) : Element := ⟨Tag.bitString, b.unused :: b.octets⟩

theorem Element.eq_of_bitString? {e : Element} {b : BitString} (h : e.bitString? = some b) :
    e = b.toElement := by
  obtain ⟨content, htag, hb⟩ := Option.bind_eq_some_iff.mp h
  unfold BitString.ofContent? at hb
  split at hb
  · cases hb
  · split at hb
    · cases hb
      exact expect?_eq_some_iff.mp htag
    · cases hb

end Der

end ChainOfTrust
