import ChainOfTrust.Pem.Frame

/-!
# What a scan finds

* `eq_of_seek` : what was found is a marker between what precedes and what follows it;
* `seek_of_notMem` : a marker is found behind text that lacks the octet it starts with;
* `seek_eq_none_of_notMem` : and in such text alone none is found;
* `seek_append`, `Frame.next?_append` : what comes later does not change what was found;
* `length_le_of_seek` : a marker at the start of a line is not passed over;
* `Frame.next?_eq_some_iff` : the four searches of a frame;
* `Frame.all_of_next`, `Frame.all_of_none` : the frames of a text from its first one.
-/

namespace ChainOfTrust.Pem

set_option autoImplicit false

variable {marker passed s before after pre : Bytes} {found : Nat} {x : UInt8}

/-! ## Markers -/

/-- The last octets passed are the part of the marker that is matched. -/
theorem eq_of_seekFrom (hfound : found < marker.length)
    (hpassed : ∃ b, passed.reverse = b ++ marker.take found)
    (h : seekFrom marker passed found s = some (before, after)) :
    passed.reverse ++ s = before ++ marker ++ after := by
  induction s generalizing passed found with
  | nil => cases h
  | cons y s ih =>
    obtain ⟨b, hb⟩ := hpassed
    have hstep : passed.reverse ++ y :: s = (y :: passed).reverse ++ s := by
      rw [List.reverse_cons, List.append_assoc]
      rfl
    rw [seekFrom] at h
    rw [hstep]
    unfold advance at h
    by_cases hy : marker[found]? = some y
    · have htake : (y :: passed).reverse = b ++ marker.take (found + 1) := by
        rw [List.reverse_cons, hb, List.take_add_one, hy, List.append_assoc]
        rfl
      rw [if_pos hy] at h
      split at h
      · rename_i hlength
        cases h
        rw [hlength, List.take_length] at htake
        have hdrop : ((y :: passed).drop marker.length).reverse = b := by
          have hreverse : y :: passed = marker.reverse ++ b.reverse := by
            rw [← List.reverse_append, ← htake, List.reverse_reverse]
          rw [hreverse, ← List.length_reverse, List.drop_left, List.reverse_reverse]
        rw [hdrop, htake]
      · exact ih (by omega) ⟨b, htake⟩ h
    · rw [if_neg hy] at h
      rw [if_neg (by omega)] at h
      exact ih (by omega) ⟨(y :: passed).reverse, by rw [List.take_zero, List.append_nil]⟩ h

theorem eq_of_seek (hmarker : marker ≠ []) (h : seek marker s = some (before, after)) :
    s = before ++ marker ++ after :=
  eq_of_seekFrom (List.length_pos_iff.mpr hmarker) ⟨[], rfl⟩ h

theorem seekFrom_of_notMem (hx : x ∉ pre) :
    seekFrom (x :: marker) passed 0 (pre ++ s) =
      seekFrom (x :: marker) (pre.reverse ++ passed) 0 s := by
  induction pre generalizing passed with
  | nil => rfl
  | cons y pre ih =>
    obtain ⟨hy, hpre⟩ := not_or.mp (mt List.mem_cons.mpr hx)
    have hadvance : advance (x :: marker) 0 y = 0 := by
      unfold advance
      exact if_neg fun h => hy (Option.some.inj h)
    rw [List.cons_append, seekFrom, hadvance, if_neg (by simp), ih hpre, List.reverse_cons,
      List.append_assoc]
    rfl

theorem seekFrom_rest (u t : Bytes) (ht : t ≠ []) :
    seekFrom (u ++ t) (u.reverse ++ passed) u.length (t ++ s) = some (passed.reverse, s) := by
  induction t generalizing u with
  | nil => exact (ht rfl).elim
  | cons y t ih =>
    have hadvance : advance (u ++ y :: t) u.length y = u.length + 1 := by
      unfold advance
      rw [List.getElem?_append_right (Nat.le_refl _), Nat.sub_self]
      exact if_pos rfl
    rw [List.cons_append, seekFrom, hadvance]
    by_cases ht' : t = []
    · subst ht'
      have hreverse : y :: (u.reverse ++ passed) = (u ++ [y]).reverse ++ passed := by
        rw [List.reverse_append]
        rfl
      rw [if_pos (by simp), hreverse, ← List.length_reverse, List.drop_left]
      rfl
    · have hlength : u.length + 1 ≠ (u ++ y :: t).length := by
        have := List.length_pos_iff.mpr ht'
        rw [List.length_append, List.length_cons]
        omega
      have hnext := ih (u ++ [y]) ht'
      rw [List.append_assoc, List.reverse_append, List.length_append] at hnext
      rw [if_neg hlength]
      exact hnext

theorem seek_of_notMem (hx : x ∉ pre) :
    seek (x :: marker) (pre ++ (x :: marker ++ s)) = some (pre, s) := by
  unfold seek
  rw [seekFrom_of_notMem hx, List.append_nil]
  have h : seekFrom (x :: marker) pre.reverse 0 (x :: marker ++ s) =
      some (pre.reverse.reverse, s) := seekFrom_rest [] (x :: marker) (List.cons_ne_nil x _)
  rw [List.reverse_reverse] at h
  exact h

theorem seek_eq_none_of_notMem (hx : x ∉ s) : seek (x :: marker) s = none := by
  unfold seek
  rw [← List.append_nil s, seekFrom_of_notMem hx]
  rfl

theorem seekFrom_append (h : seekFrom marker passed found s = some (before, after)) (t : Bytes) :
    seekFrom marker passed found (s ++ t) = some (before, after ++ t) := by
  induction s generalizing passed found with
  | nil => cases h
  | cons y s ih =>
    rw [seekFrom] at h
    rw [List.cons_append, seekFrom]
    split at h
    · rename_i hfound
      cases h
      rw [if_pos hfound]
    · rename_i hfound
      rw [if_neg hfound]
      exact ih h

/-- What comes later does not change what was found. -/
theorem seek_append (h : seek marker s = some (before, after)) (t : Bytes) :
    seek marker (s ++ t) = some (before, after ++ t) := seekFrom_append h t

theorem length_le_of_seekFrom (hx : x ∉ marker) (hmarker : marker ≠ [])
    (h : seekFrom marker passed found (pre ++ x :: (marker ++ s)) = some (before, after)) :
    before.length ≤ passed.length + pre.length + 1 := by
  induction pre generalizing passed found with
  | nil =>
    have hadvance : advance marker found x = 0 := by
      unfold advance
      exact if_neg fun hfound => hx (List.mem_of_getElem? hfound)
    have hrest : seekFrom marker (x :: passed) 0 (marker ++ s) =
        some ((x :: passed).reverse, s) := seekFrom_rest [] marker hmarker
    rw [List.nil_append, seekFrom, hadvance,
      if_neg (Nat.ne_of_lt (List.length_pos_iff.mpr hmarker)), hrest] at h
    cases h
    simp
  | cons y pre ih =>
    rw [List.cons_append, seekFrom] at h
    split at h
    · cases h
      rw [List.length_reverse, List.length_drop, List.length_cons, List.length_cons]
      omega
    · have := ih h
      rw [List.length_cons] at this ⊢
      omega

/-- A line that starts with a marker is not passed over: what precedes the first match is no longer
than the text before the line. -/
theorem length_le_of_seek (hx : x ∉ marker) (hmarker : marker ≠ [])
    (hpre : pre = [] ∨ pre.getLast? = some x)
    (h : seek marker (pre ++ (marker ++ s)) = some (before, after)) :
    before.length ≤ pre.length := by
  rcases hpre with rfl | hpre
  · have hstart : seek marker (marker ++ s) = some ([], s) := seekFrom_rest [] marker hmarker
    rw [List.nil_append, hstart] at h
    cases h
    exact Nat.le_refl _
  · obtain ⟨u, rfl⟩ := List.getLast?_eq_some_iff.mp hpre
    rw [List.append_assoc] at h
    have := length_le_of_seekFrom hx hmarker h
    rw [List.length_append]
    simpa using this

/-! ## Frames -/

namespace Frame

variable {f : Frame} {rest : Bytes}

theorem next?_eq_some_iff : next? s = some (f, rest) ↔
    ∃ pre s₁ s₂ s₃ s₄, seek beginMarker s = some (pre, s₁) ∧
      seek dashes s₁ = some (f.opening, s₂) ∧
      seek endMarker (s₂.dropWhile isGap) = some (f.payload, s₃) ∧
      seek dashes s₃ = some (f.closing, s₄) ∧ rest = s₄.dropWhile isGap := by
  simp only [next?, Option.bind_eq_bind, Option.bind_eq_some_iff, Option.some.injEq]
  constructor
  · rintro ⟨⟨pre, s₁⟩, h₁, ⟨opening, s₂⟩, h₂, ⟨payload, s₃⟩, h₃, ⟨closing, s₄⟩, h₄, h⟩
    cases h
    exact ⟨pre, s₁, s₂, s₃, s₄, h₁, h₂, h₃, h₄, rfl⟩
  · rintro ⟨pre, s₁, s₂, s₃, s₄, h₁, h₂, h₃, h₄, rfl⟩
    exact ⟨(pre, s₁), h₁, (f.opening, s₂), h₂, (f.payload, s₃), h₃, (f.closing, s₄), h₄, rfl⟩

theorem next?_append (h : next? s = some (f, rest)) :
    ∃ u, ∀ t, next? (s ++ t) = some (f, (u ++ t).dropWhile isGap) := by
  obtain ⟨pre, s₁, s₂, s₃, s₄, hbegin, hopening, hend, hclosing, -⟩ := next?_eq_some_iff.mp h
  refine ⟨s₄, fun t => next?_eq_some_iff.mpr ⟨pre, s₁ ++ t, s₂ ++ t, s₃ ++ t, s₄ ++ t,
    seek_append hbegin t, seek_append hopening t, ?_, seek_append hclosing t, rfl⟩⟩
  have hne : (s₂.dropWhile isGap).isEmpty = false := by
    rcases hs₂ : s₂.dropWhile isGap with _ | ⟨x, u⟩
    · rw [hs₂] at hend
      cases hend
    · rfl
  rw [List.dropWhile_append, hne]
  exact seek_append hend t

theorem all_of_next (h : next? s = some (f, rest)) : all s = f :: all rest := by
  rw [all]
  split
  · rename_i hnone
    rw [h] at hnone
    cases hnone
  · rename_i g rest' hsome
    rw [h] at hsome
    cases hsome
    rfl

theorem all_of_none (h : next? s = none) : all s = [] := by
  rw [all]
  split
  · rfl
  · rename_i g rest' hsome
    rw [h] at hsome
    cases hsome

end Frame

end ChainOfTrust.Pem
