import ChainOfTrust.Proofs.Pem.Armour

/-!
# Header lines

What the payload of a block in order can hold: data without a dash, and above it headers, each line
of which has a colon.

* `dash_notMem_of_readContent`, `colon_mem_firstLine` : the data and the headers;
* `Block.ofFrame_eq_ok` : the checks that a frame passes;
* `Block.colon_mem_of_ofFrame` : a line of the payload with a dash in it or after it has a colon.
-/

namespace ChainOfTrust

set_option autoImplicit false

/-- An octet below `80` comes from a character of its own. -/
theorem Bytes.exists_of_flatMap_eq {cs : List Char} {u v : Bytes} {x : UInt8} (hx : x < 0x80)
    (h : cs.flatMap String.utf8EncodeChar = u ++ x :: v) :
    ∃ before after, cs = before ++ charOf x :: after ∧
      before.flatMap String.utf8EncodeChar = u ∧ after.flatMap String.utf8EncodeChar = v := by
  induction cs generalizing u with
  | nil => exact absurd h.symm (List.append_ne_nil_of_right_ne_nil _ (List.cons_ne_nil _ _))
  | cons c cs ih =>
    rw [List.flatMap_cons] at h
    rcases List.append_eq_append_iff.mp h with ⟨u', rfl, hrest⟩ | ⟨t, hc, hrest⟩
    · obtain ⟨before, after, rfl, rfl, hafter⟩ := ih hrest
      exact ⟨c :: before, after, rfl, rfl, hafter⟩
    · cases t with
      | nil =>
        obtain ⟨before, after, rfl, hbefore, hafter⟩ := ih (u := []) hrest.symm
        refine ⟨c :: before, after, rfl, ?_, hafter⟩
        rw [List.flatMap_cons, hbefore, List.append_nil, hc, List.append_nil]
      | cons y t =>
        obtain ⟨rfl, rfl⟩ := List.cons.inj hrest
        have hmem : x ∈ String.utf8EncodeChar c := by
          rw [hc]
          exact List.mem_append_right _ List.mem_cons_self
        obtain rfl := eq_charOf_of_mem hmem hx
        rw [utf8EncodeChar_charOf hx] at hc
        have hu : u = [] := by
          cases u with
          | nil => rfl
          | cons z u =>
            have := congrArg List.length hc
            simp at this
        subst hu
        obtain rfl : [] = t := (List.cons.inj hc).2
        exact ⟨[], cs, rfl, rfl, rfl⟩

namespace Pem

/-! ## Data -/

theorem dash_notMem_of_readContent {data octets : Bytes} (h : readContent data = .ok octets) :
    dash ∉ data := by
  intro hmem
  rcases hdata : data.utf8? with _ | t
  · unfold readContent readText at h
    rw [hdata] at h
    cases h
  · have htext : readText data = .ok t := by rw [readText, hdata]
    have hchar : '-' ∈ t.toList := by
      rw [Bytes.utf8?_eq_some_iff.mp hdata] at hmem
      exact Bytes.charOf_mem_of_mem_octets hmem (by decide)
    have hkept : '-' ∈ t.toList.filter fun c => !Text.isBlank c :=
      List.mem_filter.mpr ⟨hchar, by decide⟩
    rw [readContent_of_readText htext] at h
    rcases hdecode : Base64.decode? (t.toList.filter fun c => !Text.isBlank c) with _ | content
    · rw [hdecode] at h
      cases h
    · exact Base64.dash_notMem_of_decode? hdecode hkept

/-! ## Headers -/

def colon : UInt8 := 0x3A

/-- The octets before the first line feed. -/
def firstLine (s : Bytes) : Bytes := s.takeWhile (· != lineFeed)

/-- What follows starts a line. -/
def EndsLine (u : Bytes) : Prop := u = [] ∨ u.getLast? = some lineFeed

theorem firstLine_flatMap (cs : List Char) : firstLine (cs.flatMap String.utf8EncodeChar) =
    (cs.takeWhile (· != '\n')).flatMap String.utf8EncodeChar := by
  unfold firstLine
  induction cs with
  | nil => rfl
  | cons c cs ih =>
    rw [List.flatMap_cons]
    by_cases hc : c = '\n'
    · subst hc
      rfl
    · have hno : ∀ x ∈ String.utf8EncodeChar c, (x != lineFeed) = true := by
        intro x hx
        rw [bne_iff_ne]
        rintro rfl
        exact hc (Bytes.eq_charOf_of_mem hx (by decide))
      rw [List.takeWhile_append_of_pos hno, ih, List.takeWhile_cons_of_pos (by simpa using hc)]
      rfl

/-- A line without the carriage return at its end. -/
def withoutReturn (l : List Char) : List Char := if l.getLast? = some '\r' then l.dropLast else l

theorem withoutReturn_subset (l : List Char) : withoutReturn l ⊆ l := by
  unfold withoutReturn
  split
  · exact List.dropLast_subset l
  · exact List.Subset.refl l

theorem lines_eq {s last : List Char} {ended : List (List Char)}
    (h : s.splitOnP (· == '\n') = ended ++ [last]) :
    lines s = ended.map withoutReturn ++ if last = [] then [] else [last] := by
  unfold lines
  simp only [h, List.getLast?_concat, List.dropLast_concat]
  cases last with
  | nil => exact (List.append_nil _).symm
  | cons c last => rfl

/-- A line after others is among the lines, but for a carriage return at its end. -/
theorem exists_mem_lines {before after : List Char}
    (hbefore : before = [] ∨ before.getLast? = some '\n') (hafter : after ≠ []) :
    ∃ l ∈ lines (before ++ after), l ⊆ after.takeWhile (· != '\n') := by
  obtain ⟨parts, hparts⟩ : ∃ parts, (before ++ after).splitOnP (· == '\n') =
      parts ++ after.splitOnP (· == '\n') := by
    rcases hbefore with rfl | hbefore
    · exact ⟨[], rfl⟩
    · obtain ⟨text, rfl⟩ := List.getLast?_eq_some_iff.mp hbefore
      refine ⟨text.splitOnP (· == '\n'), ?_⟩
      rw [List.append_assoc]
      exact List.splitOnP_append_cons _ _ (by decide)
  have hsplit := List.takeWhile_append_dropWhile (p := (· != '\n')) (l := after)
  have hline : ∀ c ∈ after.takeWhile (· != '\n'), (c == '\n') = false := fun c hc => by
    simpa using List.all_eq_true.mp List.all_takeWhile c hc
  rcases hrest : after.dropWhile (· != '\n') with _ | ⟨c, rest⟩
  · -- The line is the last one, and is kept as it is.
    rw [hrest, List.append_nil] at hsplit
    rw [hsplit] at hline ⊢
    rw [List.splitOnP_eq_singleton hline] at hparts
    refine ⟨after, ?_, fun c hc => hc⟩
    rw [lines_eq hparts, if_neg hafter]
    exact List.mem_append_right _ List.mem_cons_self
  · have hc : c = '\n' := by
      have hhead := List.head?_dropWhile_not (· != '\n') after
      rw [hrest] at hhead
      simpa using hhead
    subst hc
    rw [hrest] at hsplit
    rw [← hsplit, List.splitOnP_append_cons_of_forall_mem hline _ (by decide) rest, hsplit,
      ← List.dropLast_append_getLast (List.splitOnP_ne_nil (· == '\n') rest), ← List.cons_append,
      ← List.append_assoc] at hparts
    refine ⟨_, ?_, withoutReturn_subset _⟩
    rw [lines_eq hparts, List.map_append, List.map_cons]
    exact List.mem_append_left _ (List.mem_append_right _ List.mem_cons_self)

theorem firstLine_append_of_notMem {s : Bytes} (hs : lineFeed ∉ s) (t : Bytes) :
    firstLine (s ++ t) = s ++ firstLine t :=
  List.takeWhile_append_of_pos fun _ hx => bne_iff_ne.mpr fun h => hs (h ▸ hx)

theorem firstLine_subset_append (s t : Bytes) : firstLine s ⊆ firstLine (s ++ t) := by
  unfold firstLine
  rw [List.takeWhile_append]
  split
  · exact fun x hx => List.mem_append_left _ ((List.takeWhile_sublist _).subset hx)
  · exact List.Subset.refl _

theorem colon_mem_firstLine {u v : Bytes} (h : checkHeaders (u ++ v) = .ok ()) (hu : EndsLine u)
    (hv : v ≠ []) : colon ∈ firstLine v := by
  rcases htext : (u ++ v).utf8? with _ | t
  · unfold checkHeaders readText at h
    rw [htext] at h
    cases h
  · rw [checkHeaders_of_readText (t := t) (by rw [readText, htext])] at h
    rcases hfind : (lines t.toList).find? (fun l => !l.contains ':') with _ | l
    case some =>
      rw [hfind] at h
      cases h
    case none =>
      have hoctets : t.toList.flatMap String.utf8EncodeChar = u ++ v :=
        (Bytes.utf8?_eq_some_iff.mp htext).symm
      obtain ⟨before, after, htl, hbefore, hafter⟩ : ∃ before after, t.toList = before ++ after ∧
          (before = [] ∨ before.getLast? = some '\n') ∧
          after.flatMap String.utf8EncodeChar = v := by
        rcases hu with rfl | hu
        · exact ⟨[], t.toList, rfl, .inl rfl, hoctets⟩
        · obtain ⟨u, rfl⟩ := List.getLast?_eq_some_iff.mp hu
          rw [List.append_assoc] at hoctets
          obtain ⟨before, after, htl, -, hafter⟩ := Bytes.exists_of_flatMap_eq (by decide) hoctets
          refine ⟨before ++ ['\n'], after, ?_, .inr (List.getLast?_concat ..), hafter⟩
          rw [htl, List.append_assoc]
          rfl
      have hne : after ≠ [] := by
        rintro rfl
        exact hv hafter.symm
      obtain ⟨l, hl, hsub⟩ := exists_mem_lines hbefore hne
      rw [← htl] at hl
      have hcolon : ':' ∈ l := by
        have := List.find?_eq_none.mp hfind l hl
        simpa using this
      rw [← hafter, firstLine_flatMap]
      exact List.mem_flatMap.mpr ⟨':', hsub hcolon, by decide⟩

/-! ## Blocks -/

theorem Frame.split_eq (payload : Bytes) :
    Frame.split payload = ([], payload) ∨
      ∃ gap, (∀ x ∈ gap, x = lineFeed ∨ x = carriageReturn) ∧ gap ≠ [] ∧
        payload = (Frame.split payload).1 ++ (gap ++ (Frame.split payload).2) := by
  unfold Frame.split
  rcases hfeeds : seek [0x0A, 0x0A] payload with _ | ⟨headers, data⟩
  · rcases hreturns : seek [0x0D, 0x0A, 0x0D, 0x0A] payload with _ | ⟨headers, data⟩
    · exact .inl rfl
    · refine .inr ⟨[0x0D, 0x0A, 0x0D, 0x0A], by simp [lineFeed, carriageReturn], by decide, ?_⟩
      rw [← List.append_assoc]
      exact eq_of_seek (by decide) hreturns
  · refine .inr ⟨[0x0A, 0x0A], by simp [lineFeed], by decide, ?_⟩
    rw [← List.append_assoc]
    exact eq_of_seek (by decide) hfeeds

namespace Block

variable {b : Block} {f : Frame} {u v : Bytes}

theorem octets_of_readLabel {missing : PemFault} {s : Bytes} {label : String}
    (h : readLabel missing s = .ok label) : s = Text.octets label := by
  unfold readLabel readText at h
  rcases hs : s.utf8? with _ | t
  · rw [hs] at h
    cases h
  · rw [hs] at h
    change (if t.isEmpty then _ else _) = _ at h
    split at h
    · cases h
    · cases h
      exact Bytes.utf8?_eq_some_iff.mp hs

/-- What a frame that is in order has passed. -/
theorem ofFrame_eq_ok (h : ofFrame f = .ok b) :
    f.opening = Text.octets b.label ∧ f.closing = Text.octets b.label ∧
      readContent (Frame.split f.payload).2 = .ok b.content ∧
      checkHeaders (Frame.split f.payload).1 = .ok () := by
  unfold ofFrame at h
  generalize Frame.split f.payload = parts at h ⊢
  obtain ⟨headers, data⟩ := parts
  rcases hopening : readLabel .missingBeginLabel f.opening with fault | opening
  · rw [hopening] at h
    cases h
  · rcases hclosing : readLabel .missingEndLabel f.closing with fault | closing
    · rw [hopening, hclosing] at h
      cases h
    · rw [hopening, hclosing] at h
      change (if opening ≠ closing then _ else _) = _ at h
      split at h
      · cases h
      · rename_i hsame
        obtain rfl := not_not.mp hsame
        rcases hcontent : readContent data with fault | octets
        · rw [hcontent] at h
          cases h
        · rcases hheaders : checkHeaders headers with fault | ⟨⟩
          · rw [hcontent, hheaders] at h
            cases h
          · rw [hcontent, hheaders] at h
            cases h
            exact ⟨octets_of_readLabel hopening, octets_of_readLabel hclosing, rfl, rfl⟩

/-- **A line of the payload has a colon**, if there is a dash in it or after it: it is a header. -/
theorem colon_mem_of_ofFrame (h : ofFrame f = .ok b) (hpayload : f.payload = u ++ v)
    (hu : EndsLine u) (hv : dash ∈ v) (hfeed : v.head? ≠ some lineFeed)
    (hreturn : v.head? ≠ some carriageReturn) : colon ∈ firstLine v := by
  obtain ⟨-, -, hcontent, hheaders⟩ := ofFrame_eq_ok h
  have hdata := dash_notMem_of_readContent hcontent
  rcases Frame.split_eq f.payload with hsplit | ⟨gap, hgap, hne, hsplit⟩
  · rw [hsplit, hpayload] at hdata
    exact absurd (List.mem_append_right u hv) hdata
  · have hstart (w rest : Bytes) (hw : ∃ t, gap = t ++ w) (hvw : v = w ++ rest) : w = [] := by
      cases w with
      | nil => rfl
      | cons x w =>
        obtain ⟨t, rfl⟩ := hw
        subst hvw
        rcases hgap x (List.mem_append_right t List.mem_cons_self) with rfl | rfl
        · exact (hfeed rfl).elim
        · exact (hreturn rfl).elim
    generalize (Frame.split f.payload).1 = headers at hheaders hsplit
    generalize (Frame.split f.payload).2 = data at hdata hsplit
    rw [hpayload] at hsplit
    rcases List.append_eq_append_iff.mp hsplit with ⟨w, rfl, hvw⟩ | ⟨w, rfl, hrest⟩
    · have hw : w ≠ [] := by
        rintro rfl
        exact hne (hstart gap data ⟨[], rfl⟩ hvw)
      rw [hvw]
      exact firstLine_subset_append w _ (colon_mem_firstLine hheaders hu hw)
    · rcases List.append_eq_append_iff.mp hrest with ⟨t, rfl, rfl⟩ | ⟨t, rfl, hvt⟩
      · exact absurd (List.mem_append_right t hv) hdata
      · obtain rfl := hstart t data ⟨w, rfl⟩ hvt
        rw [hvt] at hv
        exact absurd hv hdata

end Block

end Pem

end ChainOfTrust
