import ChainOfTrust.Pem.Base64
import ChainOfTrust.Proofs.Der.Canonical
import ChainOfTrust.Text.Blank
import Mathlib.Data.List.GetD

/-!
# Base64 is read back

* `decode?_encode` : the octets that were written, for each length of the last group;
* `mem_encode` : the characters that are written, none of them a blank or a dash;
* `dash_notMem_of_decode?` : a text with a dash is not read.
-/

namespace ChainOfTrust.Base64

set_option autoImplicit false

/-! ## Digits -/

theorem decodeDigit?_encodeDigit {n : Nat} (hn : n < 64) :
    decodeDigit? (encodeDigit n) = some n := by
  have hall : ∀ d < 64, decodeDigit? (encodeDigit d) = some d := by decide +kernel
  exact hall n hn

theorem encodeDigit_mem (n : Nat) : encodeDigit n ∈ alphabet := by
  unfold encodeDigit
  by_cases hn : n < alphabet.length
  · rw [List.getD_eq_getElem _ _ hn]
    exact List.getElem_mem hn
  · rw [List.getD_eq_default _ _ (Nat.le_of_not_lt hn)]
    decide

theorem encodeDigit_ne_pad (n : Nat) : encodeDigit n ≠ '=' := by
  intro h
  have hpad : '=' ∈ alphabet := h ▸ encodeDigit_mem n
  exact absurd hpad (by decide)

theorem mem_encode {c : Char} {b : Bytes} (hc : c ∈ encode b) : c ∈ '=' :: alphabet := by
  have hdigit (n : Nat) : encodeDigit n ∈ '=' :: alphabet :=
    List.mem_cons_of_mem _ (encodeDigit_mem n)
  induction b using encode.induct with
  | case1 x y z rest ih =>
    simp only [encode, List.mem_cons] at hc
    rcases hc with rfl | rfl | rfl | rfl | hc
    · exact hdigit _
    · exact hdigit _
    · exact hdigit _
    · exact hdigit _
    · exact ih hc
  | case2 x y =>
    simp only [encode, List.mem_cons, List.not_mem_nil, or_false] at hc
    rcases hc with rfl | rfl | rfl | rfl
    · exact hdigit _
    · exact hdigit _
    · exact hdigit _
    · exact List.mem_cons_self
  | case3 x =>
    simp only [encode, List.mem_cons, List.not_mem_nil, or_false] at hc
    rcases hc with rfl | rfl | rfl | rfl
    · exact hdigit _
    · exact hdigit _
    · exact List.mem_cons_self
    · exact List.mem_cons_self
  | case4 => cases hc

/-! ## Groups -/

theorem decodeOne?_encodeDigit {n : Nat} (hn : n < 256) :
    decodeOne? (encodeDigit (n / 4)) (encodeDigit (n % 4 * 16)) = some (Bytes.ofNat 1 n) := by
  have hdigits : n / 4 * 64 + n % 4 * 16 = n * 16 := by omega
  unfold decodeOne?
  rw [decodeDigit?_encodeDigit (by omega), decodeDigit?_encodeDigit (by omega)]
  show (if (n / 4 * 64 + n % 4 * 16) % 16 = 0 then _ else _) = _
  rw [hdigits, if_pos (Nat.mul_mod_left n 16), Nat.mul_div_cancel n (by decide)]

theorem decodeTwo?_encodeDigit {n : Nat} (hn : n < 65536) :
    decodeTwo? (encodeDigit (n / 1024)) (encodeDigit (n / 16 % 64)) (encodeDigit (n % 16 * 4)) =
      some (Bytes.ofNat 2 n) := by
  have hdigits : (n / 1024 * 64 + n / 16 % 64) * 64 + n % 16 * 4 = n * 4 := by omega
  unfold decodeTwo?
  rw [decodeDigit?_encodeDigit (by omega), decodeDigit?_encodeDigit (by omega),
    decodeDigit?_encodeDigit (by omega)]
  show (if ((n / 1024 * 64 + n / 16 % 64) * 64 + n % 16 * 4) % 4 = 0 then _ else _) = _
  rw [hdigits, if_pos (Nat.mul_mod_left n 4), Nat.mul_div_cancel n (by decide)]

theorem decodeThree?_encodeDigit {n : Nat} (hn : n < 16777216) :
    decodeThree? (encodeDigit (n / 262144)) (encodeDigit (n / 4096 % 64))
      (encodeDigit (n / 64 % 64)) (encodeDigit (n % 64)) = some (Bytes.ofNat 3 n) := by
  have hdigits :
      ((n / 262144 * 64 + n / 4096 % 64) * 64 + n / 64 % 64) * 64 + n % 64 = n := by omega
  unfold decodeThree?
  rw [decodeDigit?_encodeDigit (by omega), decodeDigit?_encodeDigit (by omega),
    decodeDigit?_encodeDigit (by omega), decodeDigit?_encodeDigit (by omega)]
  show some (Bytes.ofNat 3
    (((n / 262144 * 64 + n / 4096 % 64) * 64 + n / 64 % 64) * 64 + n % 64)) = _
  rw [hdigits]

theorem decode?_group {a b c d : Char} (hd : d ≠ '=') (rest : List Char) :
    decode? (a :: b :: c :: d :: rest) =
      (decodeThree? a b c d).bind fun group => (decode? rest).bind fun others =>
        some (group ++ others) := by
  rw [decode?]
  · rfl
  · intro _ h
    exact (hd h).elim
  · intro h
    exact (hd h).elim

/-- **What base64 writes is read back.** -/
theorem decode?_encode (b : Bytes) : decode? (encode b) = some b := by
  induction b using encode.induct with
  | case1 x y z rest ih =>
    have hn : Bytes.toNat [x, y, z] < 16777216 := by
      have := x.toNat_lt
      have := y.toNat_lt
      have := z.toNat_lt
      simp only [Bytes.toNat, List.foldl_cons, List.foldl_nil]
      omega
    rw [encode, decode?_group (encodeDigit_ne_pad _), decodeThree?_encodeDigit hn, ih]
    exact congrArg (fun group => some (group ++ rest)) (Bytes.ofNat_toNat [x, y, z])
  | case2 x y =>
    have hn : Bytes.toNat [x, y] < 65536 := by
      have := x.toNat_lt
      have := y.toNat_lt
      simp only [Bytes.toNat, List.foldl_cons, List.foldl_nil]
      omega
    have hne := encodeDigit_ne_pad (Bytes.toNat [x, y] % 16 * 4)
    rw [encode, decode?, decodeTwo?_encodeDigit hn]
    · exact congrArg some (Bytes.ofNat_toNat [x, y])
    · exact fun h => (hne h).elim
  | case3 x =>
    have hn : Bytes.toNat [x] < 256 := by
      have := x.toNat_lt
      simp only [Bytes.toNat, List.foldl_cons, List.foldl_nil]
      omega
    rw [encode, decode?, decodeOne?_encodeDigit hn]
    exact congrArg some (Bytes.ofNat_toNat [x])
  | case4 => rfl

/-! ## What is no base64 -/

variable {a b c d : Char} {octets : Bytes}

theorem ne_dash_of_decodeDigit? {n : Nat} (h : decodeDigit? c = some n) : c ≠ '-' := by
  rintro rfl
  cases h

theorem ne_dash_of_decodeOne? (h : decodeOne? a b = some octets) : a ≠ '-' ∧ b ≠ '-' := by
  simp only [decodeOne?, Option.bind_eq_bind, Option.bind_eq_some_iff] at h
  obtain ⟨m, hm, n, hn, -⟩ := h
  exact ⟨ne_dash_of_decodeDigit? hm, ne_dash_of_decodeDigit? hn⟩

theorem ne_dash_of_decodeTwo? (h : decodeTwo? a b c = some octets) :
    a ≠ '-' ∧ b ≠ '-' ∧ c ≠ '-' := by
  simp only [decodeTwo?, Option.bind_eq_bind, Option.bind_eq_some_iff] at h
  obtain ⟨k, hk, m, hm, n, hn, -⟩ := h
  exact ⟨ne_dash_of_decodeDigit? hk, ne_dash_of_decodeDigit? hm, ne_dash_of_decodeDigit? hn⟩

theorem ne_dash_of_decodeThree? (h : decodeThree? a b c d = some octets) :
    a ≠ '-' ∧ b ≠ '-' ∧ c ≠ '-' ∧ d ≠ '-' := by
  simp only [decodeThree?, Option.bind_eq_bind, Option.bind_eq_some_iff] at h
  obtain ⟨j, hj, k, hk, m, hm, n, hn, -⟩ := h
  exact ⟨ne_dash_of_decodeDigit? hj, ne_dash_of_decodeDigit? hk, ne_dash_of_decodeDigit? hm,
    ne_dash_of_decodeDigit? hn⟩

/-- A text with a dash is no base64. -/
theorem dash_notMem_of_decode? {cs : List Char} (h : decode? cs = some octets) : '-' ∉ cs := by
  induction cs using decode?.induct generalizing octets with
  | case1 => exact List.not_mem_nil
  | case2 a b =>
    obtain ⟨ha, hb⟩ := ne_dash_of_decodeOne? (h : decodeOne? a b = some octets)
    simp [ha.symm, hb.symm]
  | case3 a b c hc =>
    rw [decode?] at h
    · obtain ⟨ha, hb, hc⟩ := ne_dash_of_decodeTwo? h
      simp [ha.symm, hb.symm, hc.symm]
    · exact hc
  | case4 a b c d rest hone htwo ih =>
    rw [decode?] at h
    · simp only [Option.bind_eq_bind, Option.bind_eq_some_iff] at h
      obtain ⟨group, hgroup, others, hothers, -⟩ := h
      obtain ⟨ha, hb, hc, hd⟩ := ne_dash_of_decodeThree? hgroup
      have hrest := ih hothers
      simp [ha.symm, hb.symm, hc.symm, hd.symm, hrest]
    · exact hone
    · exact htwo
  | case5 cs hnil hone htwo hgroup =>
    rw [decode?] at h
    · cases h
    · exact hnil
    · exact hone
    · exact htwo
    · exact hgroup

end ChainOfTrust.Base64
