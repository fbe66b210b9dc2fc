import ChainOfTrust.Proofs.Pem.HeaderLines
import ChainOfTrust.Proofs.Store.Bundle
import ChainOfTrust.Proofs.Store.Loading

/-!
# What becomes of the certificate lines of a bundle

A certificate line reads `-----BEGIN CERTIFICATE-----`. A search for a marker may miss one inside a
line, but after a line feed it starts afresh, so it passes over no certificate line; and a payload
with one in it is no payload. What can be lost is at the end of the text, after the last whole block.

* `certificateLines`, `laterCertificateLines` : how many there are, and how many after the first line;
* `NoneOpens` : text in which none starts; the text before a marker (`noneOpens_of_seek`), a payload
  (`noneOpens_payload`), blanks (`noneOpens_of_isGap`);
* `certificateLines_le_of_next`, `certificateLines_le` : the lines of a frame, and of a file;
* `countP_isCertificate_le` : each certificate has a place in the text;
* `StoreSource.load_certificateLines` : a bundle loses no certificate line before its unfinished end;
* `StoreSource.load_of_cut`, `StoreSource.load_cutBundle` : a block in it is lost.
-/

namespace ChainOfTrust

set_option autoImplicit false

namespace Pem

/-! ## Certificate lines -/

def certificateLine : Bytes := Bytes.ofAscii "-----BEGIN CERTIFICATE-----"

/-- A line may end in a carriage return. -/
abbrev IsCertificateLine (l : Bytes) : Prop :=
  l = certificateLine ∨ l = certificateLine ++ [carriageReturn]

/-- How many lines of a text are certificate lines. -/
def certificateLines (s : Bytes) : Nat :=
  (s.splitOnP (· == lineFeed)).countP (IsCertificateLine ·)

/-- How many lines after the first are. -/
def laterCertificateLines (s : Bytes) : Nat :=
  (s.splitOnP (· == lineFeed)).tail.countP (IsCertificateLine ·)

/-- The first line is one. -/
abbrev Opens (s : Bytes) : Prop := IsCertificateLine (firstLine s)

variable {a s t : Bytes}

theorem splitOnP_eq_cons (s : Bytes) : s.splitOnP (· == lineFeed) =
    firstLine s :: (s.splitOnP (· == lineFeed)).tail := by
  unfold firstLine
  induction s with
  | nil => rfl
  | cons x s ih =>
    rw [List.splitOnP_cons_eq_if_modifyHead]
    by_cases hx : x = lineFeed
    · subst hx
      rfl
    · rw [if_neg (by simpa using hx), ih, List.takeWhile_cons_of_pos (by simpa using hx)]
      rfl

theorem certificateLines_eq (s : Bytes) :
    certificateLines s = (if Opens s then 1 else 0) + laterCertificateLines s := by
  unfold certificateLines laterCertificateLines
  conv_lhs => rw [splitOnP_eq_cons]
  rw [List.countP_cons, Nat.add_comm]
  simp

theorem laterCertificateLines_cons (x : UInt8) (s : Bytes) : laterCertificateLines (x :: s) =
    if x = lineFeed then certificateLines s else laterCertificateLines s := by
  unfold laterCertificateLines certificateLines
  rw [List.splitOnP_cons_eq_if_modifyHead]
  by_cases hx : x = lineFeed
  · subst hx
    rfl
  · rw [if_neg (by simpa using hx), if_neg hx, splitOnP_eq_cons s]
    rfl

theorem laterCertificateLines_le (s : Bytes) : laterCertificateLines s ≤ certificateLines s := by
  rw [certificateLines_eq]
  exact Nat.le_add_left _ _

/-- No line that starts in `a` is a certificate line, if `s` follows. -/
def NoneOpens (a s : Bytes) : Prop :=
  ∀ u v, a = u ++ v → EndsLine u → v ≠ [] → ¬ Opens (v ++ s)

theorem laterCertificateLines_append
    (h : ∀ u v, a = u ++ lineFeed :: v → v ≠ [] → ¬ Opens (v ++ s)) :
    laterCertificateLines (a ++ s) =
      if a.getLast? = some lineFeed then certificateLines s else laterCertificateLines s := by
  induction a with
  | nil => rfl
  | cons x a ih =>
    have hrest := ih fun u v ha => h (x :: u) v (congrArg (x :: ·) ha)
    rw [List.cons_append, laterCertificateLines_cons]
    by_cases ha : a = []
    · subst ha
      simp
    · have hlast : (x :: a).getLast? = a.getLast? := by
        rw [List.getLast?_cons, List.getLast?_eq_some_getLast ha]
        rfl
      rw [hlast, hrest]
      by_cases hx : x = lineFeed
      · subst hx
        rw [if_pos rfl, certificateLines_eq, if_neg (h [] a rfl ha), hrest, Nat.zero_add]
      · rw [if_neg hx]

theorem NoneOpens.laterCertificateLines_append (h : NoneOpens a s) :
    laterCertificateLines (a ++ s) =
      if a.getLast? = some lineFeed then certificateLines s else laterCertificateLines s := by
  apply Pem.laterCertificateLines_append
  intro u v ha
  refine h (u ++ [lineFeed]) v ?_ (.inr (List.getLast?_concat ..))
  rw [ha, List.append_assoc]
  rfl

theorem NoneOpens.laterCertificateLines_le (h : NoneOpens a s) :
    laterCertificateLines (a ++ s) ≤ certificateLines s := by
  rw [h.laterCertificateLines_append]
  split
  · exact Nat.le_refl _
  · exact Pem.laterCertificateLines_le s

theorem NoneOpens.certificateLines_le (h : NoneOpens a s) :
    certificateLines (a ++ s) ≤ certificateLines s := by
  by_cases ha : a = []
  · rw [ha, List.nil_append]
  · rw [certificateLines_eq (a ++ s), if_neg (h [] a rfl (.inl rfl) ha), Nat.zero_add]
    exact h.laterCertificateLines_le

/-- Text without a line feed starts no line. -/
theorem laterCertificateLines_of_notMem (ha : lineFeed ∉ a) (s : Bytes) :
    laterCertificateLines (a ++ s) = laterCertificateLines s := by
  rw [Pem.laterCertificateLines_append, if_neg]
  · intro hlast
    exact ha (List.mem_of_getLast? hlast)
  · rintro u v rfl
    exact absurd (List.mem_append_right u List.mem_cons_self) ha

/-! ## Text that is passed over -/

theorem Opens.exists_rest (h : Opens s) :
    ∃ t, s = certificateLine ++ t ∧ (firstLine t = [] ∨ firstLine t = [carriageReturn]) := by
  have hsplit : firstLine s ++ s.dropWhile (· != lineFeed) = s := List.takeWhile_append_dropWhile
  have hrest (u : Bytes) (hu : firstLine s = certificateLine ++ u) :
      s = certificateLine ++ (u ++ s.dropWhile (· != lineFeed)) := by
    rw [← List.append_assoc, ← hu, hsplit]
  have hfirst (t : Bytes) : firstLine (certificateLine ++ t) = certificateLine ++ firstLine t :=
    firstLine_append_of_notMem (by decide) t
  rcases h with h | h
  · have hs := hrest [] (by rw [h, List.append_nil])
    refine ⟨_, hs, .inl ?_⟩
    rw [hs, hfirst] at h
    exact List.append_cancel_left (h.trans (List.append_nil _).symm)
  · have hs := hrest _ h
    refine ⟨_, hs, .inr ?_⟩
    rw [hs, hfirst] at h
    exact List.append_cancel_left h

theorem head?_of_opens (h : Opens s) : s.head? = some dash := by
  obtain ⟨t, rfl, -⟩ := h.exists_rest
  rfl

theorem not_opens_endMarker (s : Bytes) : ¬ Opens (endMarker ++ s) := by
  intro h
  obtain ⟨t, ht, -⟩ := h.exists_rest
  have hsix : endMarker.take 6 = certificateLine.take 6 := by
    have := congrArg (List.take 6) ht
    rwa [List.take_append_of_le_length (by decide), List.take_append_of_le_length (by decide)]
      at this
  exact absurd hsix (by decide)

/-- A search for what certificate lines start with passes over none of them. -/
theorem noneOpens_of_seek {marker : Bytes} (hmarker : marker ≠ [])
    (hstart : marker <+: certificateLine) (h : seek marker s = some (a, t)) :
    NoneOpens a (marker ++ t) := by
  intro u v hv hu hne hopens
  obtain ⟨rest, hrest, -⟩ := hopens.exists_rest
  obtain ⟨tail, htail⟩ := hstart
  have hfeed : lineFeed ∉ marker := by
    intro hmem
    have hline : lineFeed ∈ certificateLine := htail ▸ List.mem_append_left tail hmem
    exact absurd hline (by decide)
  have hs : s = u ++ (marker ++ (tail ++ rest)) := by
    rw [eq_of_seek hmarker h, hv, List.append_assoc, List.append_assoc, hrest, ← htail,
      List.append_assoc]
  rw [hs] at h
  have hlength := length_le_of_seek hfeed hmarker hu h
  rw [hv, List.length_append] at hlength
  have := List.length_pos_iff.mpr hne
  omega

theorem noneOpens_of_isGap (h : ∀ x ∈ a, isGap x = true) (s : Bytes) : NoneOpens a s := by
  intro u v hv _ hne hopens
  cases v with
  | nil => exact hne rfl
  | cons x v =>
    obtain rfl : x = dash := Option.some.inj (head?_of_opens hopens)
    have hgap := h dash (hv ▸ List.mem_append_right u List.mem_cons_self)
    exact absurd hgap (by decide)

theorem colon_notMem_of_opens (h : Opens s) : colon ∉ firstLine s := by
  rcases h with h | h
  · rw [h]
    decide
  · rw [h]
    decide

section Payload

variable {b : Block} {f : Frame} {s₂ s₃ : Bytes}

/-- No certificate line is in the payload of a block that is in order: it would be a header line
without a colon, or data with a dash. -/
theorem noneOpens_payload (hb : Block.ofFrame f = .ok b) (s : Bytes) : NoneOpens f.payload s := by
  intro u v hv hu hne hopens
  cases v with
  | nil => exact hne rfl
  | cons x v =>
    obtain rfl : x = dash := Option.some.inj (head?_of_opens hopens)
    have hcolon := Block.colon_mem_of_ofFrame hb hv hu List.mem_cons_self (by simp; decide)
      (by simp; decide)
    exact colon_notMem_of_opens hopens (firstLine_subset_append _ s hcolon)

/-- Nor is one cut in two by the end of an opening label, which would leave its label to the
payload. -/
theorem not_opens_of_payload (hb : Block.ofFrame f = .ok b)
    (h : seek endMarker (s₂.dropWhile isGap) = some (f.payload, s₃)) : ¬ Opens (dashes ++ s₂) := by
  intro hopens
  obtain ⟨t, ht, hfirst⟩ := hopens.exists_rest
  have hline : certificateLine =
      dashes ++ (Bytes.ofAscii "BEGIN CERTIFICATE" ++ dashes) := by decide
  rw [hline, List.append_assoc, List.append_assoc] at ht
  have hs₂ := List.append_cancel_left ht
  have hgap : s₂.dropWhile isGap = s₂ := by
    rw [hs₂]
    rfl
  rw [hgap] at h
  have hpayload := eq_of_seek (by decide) h
  rw [List.append_assoc] at hpayload
  by_cases hdash : dash ∈ f.payload
  · have hhead : f.payload.head? = some 0x42 := by
      have hboth : s₂.head? = some 0x42 := by
        rw [hs₂]
        rfl
      rw [hpayload] at hboth
      cases hp : f.payload with
      | nil =>
        rw [hp] at hdash
        cases hdash
      | cons x p =>
        rw [hp] at hboth
        exact hboth
    have hcolon := Block.colon_mem_of_ofFrame hb rfl (.inl rfl : EndsLine []) hdash
      (by rw [hhead]; decide) (by rw [hhead]; decide)
    have hmem := firstLine_subset_append _ (endMarker ++ s₃) hcolon
    rw [← hpayload] at hmem
    apply colon_notMem_of_opens hopens
    rw [firstLine_append_of_notMem (by decide)]
    exact List.mem_append_right dashes hmem
  · -- The payload would end at the dashes of the line, which no `END` follows.
    have hend : endMarker = dashes ++ Bytes.ofAscii "END " := by decide
    have hlabel : seek dashes s₂ = some (Bytes.ofAscii "BEGIN CERTIFICATE", t) := by
      rw [hs₂]
      exact seek_dashes (by decide) t
    rw [hpayload, hend, List.append_assoc, seek_dashes hdash] at hlabel
    obtain ⟨-, rfl⟩ := Prod.mk.inj (Option.some.inj hlabel)
    rcases hfirst with hfirst | hfirst
    · cases hfirst
    · cases hfirst

end Payload

/-! ## A frame at a time -/

/-- The last line of the closing label is empty: the frame ends at dashes that start a line. -/
abbrev Frame.ClosesLate (f : Frame) : Prop := f.closing.getLast? = some lineFeed

section Step

variable {b : Block} {f : Frame} {rest s₁ s₂ : Bytes}

theorem laterCertificateLines_le_dropWhile (s : Bytes) :
    laterCertificateLines s ≤ certificateLines (s.dropWhile isGap) := by
  have hgap : ∀ x ∈ s.takeWhile isGap, isGap x = true := fun x hx =>
    List.all_eq_true.mp List.all_takeWhile x hx
  have hle := (noneOpens_of_isGap hgap (s.dropWhile isGap)).laterCertificateLines_le
  rwa [List.takeWhile_append_dropWhile] at hle

/-- Only the label of certificates follows the first dashes of a certificate line. -/
theorem isCertificate_of_opens (hb : Block.ofFrame f = .ok b)
    (hopening : seek dashes s₁ = some (f.opening, s₂)) (h : Opens (beginMarker ++ s₁)) :
    b.IsCertificate := by
  obtain ⟨t, ht, -⟩ := h.exists_rest
  have hline : certificateLine =
      beginMarker ++ (Text.octets certificateLabel ++ dashes) := by decide
  rw [hline, List.append_assoc, List.append_assoc] at ht
  rw [List.append_cancel_left ht, seek_dashes (by decide)] at hopening
  obtain ⟨hlabel, -⟩ := Prod.mk.inj (Option.some.inj hopening)
  have hoctets : Bytes.utf8? (Text.octets certificateLabel) = some b.label := by
    rw [hlabel, Bytes.utf8?_eq_some_iff]
    exact (Block.ofFrame_eq_ok hb).1
  rw [Bytes.utf8?_eq_some_iff.mpr rfl] at hoctets
  exact (Option.some.inj hoctets).symm

/-- **No certificate line is lost in a frame**, but for one whose dashes end the closing label. -/
theorem certificateLines_le_of_next (h : Frame.next? s = some (f, rest))
    (hb : Block.ofFrame f = .ok b) :
    certificateLines s ≤ (if b.IsCertificate then 1 else 0) +
      ((if f.ClosesLate then 1 else 0) + certificateLines rest) := by
  obtain ⟨pre, s₁, s₂, s₃, s₄, hbegin, hopening, hend, hclosing, rfl⟩ :=
    Frame.next?_eq_some_iff.mp h
  have hnone : dashes ≠ [] ∧ dashes <+: certificateLine ∧ lineFeed ∉ dashes := by decide
  have hfirst : certificateLines s ≤
      (if b.IsCertificate then 1 else 0) + laterCertificateLines s₁ := by
    have hpre := (noneOpens_of_seek (by decide) (by decide) hbegin).certificateLines_le
    rw [eq_of_seek (by decide) hbegin, List.append_assoc]
    refine Nat.le_trans hpre ?_
    rw [certificateLines_eq, laterCertificateLines_of_notMem (by decide)]
    by_cases hopens : Opens (beginMarker ++ s₁)
    · rw [if_pos hopens, if_pos (isCertificate_of_opens hb hopening hopens)]
    · rw [if_neg hopens]
      omega
  have hopen : laterCertificateLines s₁ ≤ certificateLines (s₂.dropWhile isGap) := by
    have hlabel := (noneOpens_of_seek hnone.1 hnone.2.1 hopening).laterCertificateLines_le
    rw [certificateLines_eq, if_neg (not_opens_of_payload hb hend), Nat.zero_add,
      laterCertificateLines_of_notMem hnone.2.2] at hlabel
    rw [eq_of_seek hnone.1 hopening, List.append_assoc]
    exact Nat.le_trans hlabel (laterCertificateLines_le_dropWhile s₂)
  have hpayload : certificateLines (s₂.dropWhile isGap) ≤ laterCertificateLines s₃ := by
    have hle := (noneOpens_payload hb (endMarker ++ s₃)).certificateLines_le
    rw [certificateLines_eq (endMarker ++ s₃), if_neg (not_opens_endMarker s₃), Nat.zero_add,
      laterCertificateLines_of_notMem (by decide)] at hle
    rw [eq_of_seek (by decide) hend, List.append_assoc]
    exact hle
  have hclose : laterCertificateLines s₃ ≤
      (if f.ClosesLate then 1 else 0) + laterCertificateLines s₄ := by
    have hlabel := (noneOpens_of_seek hnone.1 hnone.2.1 hclosing).laterCertificateLines_append
    rw [certificateLines_eq, laterCertificateLines_of_notMem hnone.2.2] at hlabel
    rw [eq_of_seek hnone.1 hclosing, List.append_assoc, hlabel]
    by_cases hlate : f.ClosesLate
    · rw [if_pos hlate, if_pos hlate]
      split
      · exact Nat.le_refl _
      · omega
    · rw [if_neg hlate, if_neg hlate]
      omega
  have hlast := laterCertificateLines_le_dropWhile s₄
  omega

end Step

/-! ## Whole files -/

/-- What is left of a text after its frames. -/
def Frame.unfinished (s : Bytes) : Bytes :=
  match _h : next? s with
  | none => s
  | some (_, rest) => unfinished rest
termination_by s.length
decreasing_by exact length_of_next _h

theorem Frame.unfinished_of_none (h : next? s = none) : unfinished s = s := by
  rw [unfinished]
  split
  · rfl
  · rename_i hsome
    rw [h] at hsome
    cases hsome

theorem Frame.unfinished_of_next {f : Frame} {rest : Bytes} (h : next? s = some (f, rest)) :
    unfinished s = unfinished rest := by
  rw [unfinished]
  split
  · rename_i hnone
    rw [h] at hnone
    cases hnone
  · rename_i hsome
    rw [h] at hsome
    cases hsome
    rfl

theorem certificateLines_le {bs : List Block} (h : Block.all s = .ok bs) :
    certificateLines s ≤ bs.countP (·.IsCertificate) + (Frame.all s).countP (·.ClosesLate) +
      certificateLines (Frame.unfinished s) := by
  induction s using Frame.all.induct generalizing bs with
  | case1 s hnone =>
    rw [Frame.unfinished_of_none hnone]
    exact Nat.le_add_left _ _
  | case2 s f rest hnext ih =>
    obtain ⟨b, cs, hb, hcs, rfl⟩ := Block.all_of_next hnext h
    have hstep := certificateLines_le_of_next hnext hb
    have hrest := ih hcs
    rw [Frame.unfinished_of_next hnext, Frame.all_of_next hnext, List.countP_cons, List.countP_cons]
    simp only [decide_eq_true_eq]
    omega

/-! ## No certificate without a line -/

/-- In how many places of a text a word stands. -/
def occurrences (word s : Bytes) : Nat := s.tails.countP (word.isPrefixOf ·)

theorem occurrences_cons (word : Bytes) (x : UInt8) (s : Bytes) : occurrences word (x :: s) =
    occurrences word s + if word.isPrefixOf (x :: s) then 1 else 0 := by
  unfold occurrences
  show ((x :: s) :: s.tails).countP _ = _
  rw [List.countP_cons]

theorem occurrences_le_append (word a s : Bytes) :
    occurrences word s ≤ occurrences word (a ++ s) := by
  induction a with
  | nil => exact Nat.le_refl _
  | cons x a ih =>
    rw [List.cons_append, occurrences_cons]
    exact Nat.le_add_right_of_le ih

/-- A word stands where it is written. -/
theorem occurrences_append (x : UInt8) (word s : Bytes) : occurrences (x :: word) (x :: word ++ s) =
    occurrences (x :: word) (word ++ s) + 1 := by
  have hword : (x :: word).isPrefixOf (x :: (word ++ s)) = true :=
    List.isPrefixOf_iff_prefix.mpr (List.prefix_append (x :: word) s)
  rw [List.cons_append, occurrences_cons, if_pos hword]

theorem exists_of_next {f : Frame} {rest : Bytes} (h : Frame.next? s = some (f, rest)) :
    ∃ pre between, s = pre ++ (beginMarker ++ (f.opening ++ (dashes ++ (between ++ rest)))) := by
  obtain ⟨pre, s₁, s₂, s₃, s₄, hbegin, hopening, hend, hclosing, rfl⟩ :=
    Frame.next?_eq_some_iff.mp h
  have hlast : s₄.dropWhile isGap <:+ s₄ := List.dropWhile_suffix _
  have hclose : s₄ <:+ s₃ := ⟨f.closing ++ dashes, (eq_of_seek (by decide) hclosing).symm⟩
  have hpayload : s₃ <:+ s₂.dropWhile isGap :=
    ⟨f.payload ++ endMarker, (eq_of_seek (by decide) hend).symm⟩
  have hgap : s₂.dropWhile isGap <:+ s₂ := List.dropWhile_suffix _
  obtain ⟨between, hbetween⟩ := hlast.trans (hclose.trans (hpayload.trans hgap))
  refine ⟨pre, between, ?_⟩
  rw [hbetween, ← List.append_assoc f.opening, ← eq_of_seek (by decide) hopening,
    ← List.append_assoc, ← eq_of_seek (by decide) hbegin]

/-- A block labelled as a certificate has a place of its own where its line stands. -/
theorem countP_isCertificate_le {bs : List Block} (h : Block.all s = .ok bs) :
    bs.countP (·.IsCertificate) ≤ occurrences certificateLine s := by
  induction s using Frame.all.induct generalizing bs with
  | case1 s hnone =>
    unfold Block.all at h
    rw [Frame.all_of_none hnone] at h
    cases h
    exact Nat.zero_le _
  | case2 s f rest hnext ih =>
    obtain ⟨b, cs, hb, hcs, rfl⟩ := Block.all_of_next hnext h
    obtain ⟨pre, between, rfl⟩ := exists_of_next hnext
    have hrest := ih hcs
    rw [List.countP_cons]
    by_cases hcert : b.IsCertificate
    · have hline : beginMarker ++ (f.opening ++ (dashes ++ (between ++ rest))) =
          certificateLine ++ (between ++ rest) := by
        rw [(Block.ofFrame_eq_ok hb).1, hcert, ← List.append_assoc, ← List.append_assoc]
        exact congrArg (· ++ (between ++ rest)) (by decide)
      have hplace : occurrences certificateLine (certificateLine ++ (between ++ rest)) =
          occurrences certificateLine (certificateLine.tail ++ (between ++ rest)) + 1 := by
        have hcons : certificateLine = dash :: certificateLine.tail := by decide
        rw [hcons]
        exact occurrences_append dash certificateLine.tail (between ++ rest)
      have hafter := occurrences_le_append certificateLine (certificateLine.tail ++ between) rest
      have hbefore := occurrences_le_append certificateLine pre
        (certificateLine ++ (between ++ rest))
      rw [List.append_assoc] at hafter
      rw [if_pos (by simpa using hcert), hline]
      omega
    · rw [if_neg (by simpa using hcert), Nat.add_zero]
      have hafter := occurrences_le_append certificateLine
        (pre ++ (beginMarker ++ (f.opening ++ (dashes ++ between)))) rest
      simp only [List.append_assoc] at hafter
      exact Nat.le_trans hrest hafter

end Pem

namespace StoreSource

open Pem (Block Frame certificateLine certificateLines occurrences)

/-- **No certificate line before the unfinished end of a bundle is lost.** A bundle is refused by a
fault of the store, or its certificates are the contents of the blocks labelled as certificates, in
order. There are no fewer of them than certificate lines, but for those in the text after the last
whole block, or whose dashes end a closing label; and no more than places where such a line stands. -/
theorem load_certificateLines {fs : FileSystem} {path : String} {data : Bytes}
    (hread : fs.readFile path = .ok data) :
    (∃ fault, ((bundle path).load fs).outcome = .error (.trustStore fault)) ∨
    ∃ cs blocks, ((bundle path).load fs).outcome = .ok cs ∧ Block.all data = .ok blocks ∧
      cs.map (·.der) = (blocks.filter (·.IsCertificate)).map (·.content) ∧
      certificateLines data ≤ cs.length + (Frame.all data).countP (·.ClosesLate) +
        certificateLines (Frame.unfinished data) ∧
      cs.length ≤ occurrences certificateLine data := by
  rw [load_bundle hread]
  rcases houtcome : (Pem.readBundle path data).outcome with e | cs
  · obtain ⟨fault, rfl⟩ := Pem.readBundle_failsInStore path data e houtcome
    exact .inl ⟨fault, rfl⟩
  · rcases hall : Block.all data with fault | blocks
    · unfold Pem.readBundle at houtcome
      rw [hall] at houtcome
      cases houtcome
    · rw [Pem.readBundle_of_all hall] at houtcome
      have hder := Pem.map_der_of_certificates houtcome
      have hlength : cs.length = blocks.countP (·.IsCertificate) := by
        have := congrArg List.length hder
        rwa [List.length_map, List.length_map, ← List.countP_eq_length_filter] at this
      refine .inr ⟨cs, blocks, rfl, rfl, hder, ?_, ?_⟩
      · rw [hlength]
        exact Pem.certificateLines_le hall
      · rw [hlength]
        exact Pem.countP_isCertificate_le hall

/-! ## A bundle that is cut off -/

/-- **Nothing tells a bundle that is cut off** from one that ends before its last block. -/
theorem load_of_cut {fs fs' : FileSystem} {path : String} {data a c : Bytes} {blocks : List Block}
    {b : Block} (hread : fs.readFile path = .ok data) (hwritten : Pem.Written blocks data)
    (ha : Pem.Armour b a) (hc : c <+: a) (hne : c ≠ a)
    (hread' : fs'.readFile path = .ok (data ++ c)) :
    (bundle path).load fs' = (bundle path).load fs := by
  rw [load_bundle hread, load_bundle hread',
    Pem.readBundle_of_all (Block.all_of_written_append hwritten (ha.unfinished hc hne)),
    Pem.readBundle_of_all (Block.all_of_written hwritten)]

/-- A root with its base64 in one line. -/
def rootText : Bytes :=
  Pem.beginMarker ++ (Text.octets rootBlock.label ++ (Pem.dashes ++ ([Pem.lineFeed] ++
    (((Base64.encode rootBlock.content).flatMap String.utf8EncodeChar ++ ([Pem.lineFeed] ++ [])) ++
      (Pem.endMarker ++ (Text.octets rootBlock.label ++ Pem.dashes))))))

/-- A root twice, the second time without the last dash. -/
def cutBundle : Bytes := rootText ++ ([Pem.lineFeed] ++ rootText.dropLast)

theorem armour_rootText : Pem.Armour rootBlock rootText := by
  have hne : Base64.encode rootBlock.content ≠ [] := by decide
  have hlines := Pem.Lines.cons hne (.inl rfl) .nil
  rw [List.append_nil] at hlines
  exact .intro (by decide) (by decide) (.inl rfl) hlines

theorem all_cutBundle : Block.all cutBundle = .ok [rootBlock] := by
  have hwhole : Pem.Written [rootBlock] ([] ++ (rootText ++ [Pem.lineFeed])) :=
    .block List.not_mem_nil armour_rootText (.text (by decide))
  have hcut : Pem.Unfinished rootText.dropLast := by
    apply armour_rootText.unfinished (List.dropLast_prefix rootText)
    intro h
    have hlength := congrArg List.length h
    rw [List.length_dropLast] at hlength
    have : 0 < rootText.length := List.length_pos_iff.mpr (by decide)
    omega
  have hall := Block.all_of_written_append hwhole hcut
  rwa [List.nil_append, List.append_assoc] at hall

/-- **A block that is cut off is left out without an error.** -/
theorem load_cutBundle : certificateLines cutBundle = 2 ∧
    ∃ cs, ((bundle "roots.pem").load (singleFile cutBundle)).outcome = .ok cs ∧
      cs.map (·.der) = [rootDer] := by
  have hdecodes : ∀ b ∈ [rootBlock], b.IsCertificate → b.Decodes := by
    rw [List.forall_mem_singleton]
    exact fun _ => rootBlock_decodes
  obtain ⟨cs, hcs⟩ := Pem.certificates_outcome_ok "roots.pem" hdecodes
  refine ⟨by decide +kernel, cs, ?_, Pem.map_der_of_certificates hcs⟩
  rw [load_bundle (readFile_singleFile cutBundle), Pem.readBundle_of_all all_cutBundle]
  exact hcs

theorem load_certificateLines_cutBundle :
    (∃ fault, ((bundle "roots.pem").load (singleFile cutBundle)).outcome =
      .error (.trustStore fault)) ∨
    ∃ cs blocks, ((bundle "roots.pem").load (singleFile cutBundle)).outcome = .ok cs ∧
      Block.all cutBundle = .ok blocks ∧
      cs.map (·.der) = (blocks.filter (·.IsCertificate)).map (·.content) ∧
      certificateLines cutBundle ≤ cs.length + (Frame.all cutBundle).countP (·.ClosesLate) +
        certificateLines (Frame.unfinished cutBundle) ∧
      cs.length ≤ occurrences certificateLine cutBundle :=
  load_certificateLines (readFile_singleFile cutBundle)

end StoreSource

end ChainOfTrust
