import ChainOfTrust.Proofs.Store.Bundle
import ChainOfTrust.Proofs.Store.Loading

/-!
# The first block of a file

A text with one certificate is read by its first block, a bundle by all of its blocks. Both readers
take the blocks off the same way, so a bundle is its first block and the bundle of what follows.

* `Pem.Block.first_of_all` : the first of all blocks, where all are in order;
* `Pem.readBundle_outcome_of_first` : a bundle that begins with a certificate is that certificate and
  the bundle behind it, be that an error;
* `Certificate.ofPem_eq_ok_iff`, `Certificate.ofPem_agrees_readBundle` : the certificate of a text,
  and that of the bundle with the same octets.
-/

namespace ChainOfTrust

set_option autoImplicit false

open Pem (Block Frame)

namespace Pem

variable {s rest data : Bytes} {f : Frame} {b : Block} {bs : List Block} {fault : PemFault}
variable {c : Certificate} {cs : List Certificate}

namespace Block

theorem first_of_none (h : Frame.next? s = none) : first s = .error .malformedFraming := by
  unfold first
  rw [h]

theorem first_of_next (h : Frame.next? s = some (f, rest)) : first s = ofFrame f := by
  unfold first
  rw [h]

theorem first_eq_ok_iff :
    first s = .ok b ↔ ∃ f rest, Frame.next? s = some (f, rest) ∧ ofFrame f = .ok b := by
  rcases hnext : Frame.next? s with _ | ⟨f, rest⟩
  · simp [first_of_none hnext]
  · simp [first_of_next hnext]

theorem first_of_all (h : all s = .ok bs) :
    first s = bs.head?.elim (.error .malformedFraming) .ok := by
  rcases hnext : Frame.next? s with _ | ⟨f, rest⟩
  · rw [all_of_none hnext] at h
    cases h
    exact first_of_none hnext
  · obtain ⟨b, cs, hf, -, rfl⟩ := all_of_next hnext h
    rw [first_of_next hnext, hf]
    rfl

end Block

/-! ## A bundle and its first block -/

theorem readBundle_of_error (path : String) (h : Block.all data = .error fault) :
    (readBundle path data).outcome = .error (.trustStore (.block path fault)) := by
  unfold readBundle
  rw [h]

/-- A bundle that can be read has no block out of order. -/
theorem exists_blocks_of_readBundle {path : String} (h : (readBundle path data).outcome = .ok cs) :
    ∃ bs, Block.all data = .ok bs ∧ (certificates path bs).outcome = .ok cs := by
  rcases hall : Block.all data with fault | bs
  · rw [readBundle_of_error path hall] at h
    cases h
  · rw [readBundle_of_all hall] at h
    exact ⟨bs, rfl, h⟩

theorem readBundle_outcome_of_first (path : String) (hnext : Frame.next? data = some (f, rest))
    (hf : Block.ofFrame f = .ok b) (hlabel : b.IsCertificate)
    (hc : Certificate.ofDer b.content = .ok c) :
    (readBundle path data).outcome = (readBundle path rest).outcome.map (c :: ·) := by
  have hall : Block.all data = (Block.all rest).map (b :: ·) := by
    rw [Block.all_cons hnext, hf]
    rfl
  rcases hrest : Block.all rest with fault | bs
  · rw [hrest] at hall
    rw [readBundle_of_error path hall, readBundle_of_error path hrest]
    rfl
  · rw [hrest] at hall
    rw [readBundle_of_all hall, readBundle_of_all hrest, certificates_cons_ok path hlabel hc]

end Pem

/-! ## One certificate or a bundle -/

namespace Certificate

variable {text : String} {b : Block} {c : Certificate} {cs : List Certificate}

theorem ofPem_of_error {fault : PemFault} (h : Block.first (Bytes.ofUtf8 text) = .error fault) :
    ofPem text = .error (.pem fault) := by
  unfold ofPem
  rw [h]

theorem ofPem_of_certificate (h : Block.first (Bytes.ofUtf8 text) = .ok b)
    (hlabel : b.IsCertificate) : ofPem text = ofDer b.content := by
  unfold ofPem
  rw [h]
  exact if_pos hlabel

theorem ofPem_of_other (h : Block.first (Bytes.ofUtf8 text) = .ok b)
    (hlabel : ¬ b.IsCertificate) : ofPem text = .error (.pemLabel b.label) := by
  unfold ofPem
  rw [h]
  exact if_neg hlabel

theorem ofPem_eq_ok_iff :
    ofPem text = .ok c ↔ ∃ b, Block.first (Bytes.ofUtf8 text) = .ok b ∧ b.IsCertificate ∧
      ofDer b.content = .ok c := by
  constructor
  · intro h
    rcases hfirst : Block.first (Bytes.ofUtf8 text) with fault | b
    · rw [ofPem_of_error hfirst] at h
      cases h
    · by_cases hlabel : b.IsCertificate
      · exact ⟨b, rfl, hlabel, ofPem_of_certificate hfirst hlabel ▸ h⟩
      · rw [ofPem_of_other hfirst hlabel] at h
        cases h
  · rintro ⟨b, hfirst, hlabel, hc⟩
    rw [ofPem_of_certificate hfirst hlabel, hc]

/-- Behind the block of its first certificate, a bundle goes on as if it began there. -/
theorem readBundle_of_ofPem (path : String) (h : ofPem text = .ok c) :
    ∃ f rest, Frame.next? (Bytes.ofUtf8 text) = some (f, rest) ∧
      (Pem.readBundle path (Bytes.ofUtf8 text)).outcome =
        (Pem.readBundle path rest).outcome.map (c :: ·) := by
  obtain ⟨b, hfirst, hlabel, hc⟩ := ofPem_eq_ok_iff.mp h
  obtain ⟨f, rest, hnext, hf⟩ := Block.first_eq_ok_iff.mp hfirst
  exact ⟨f, rest, hnext, Pem.readBundle_outcome_of_first path hnext hf hlabel hc⟩

theorem ofPem_of_readBundle {path : String}
    (h : (Pem.readBundle path (Bytes.ofUtf8 text)).outcome = .ok cs)
    (hfirst : Block.first (Bytes.ofUtf8 text) = .ok b) (hlabel : b.IsCertificate) :
    ∃ c others, cs = c :: others ∧ ofPem text = .ok c := by
  obtain ⟨bs, hall, hcs⟩ := Pem.exists_blocks_of_readBundle h
  rw [Block.first_of_all hall] at hfirst
  rcases bs with _ | ⟨d, bs⟩
  · cases hfirst
  · cases hfirst
    rw [ofPem_of_certificate (Block.first_of_all hall) hlabel]
    rcases hc : ofDer b.content with fault | c
    · rw [Pem.certificates_cons_error path hlabel hc] at hcs
      cases hcs
    · rw [Pem.certificates_cons_ok path hlabel hc] at hcs
      rcases hothers : (Pem.certificates path bs).outcome with e | others
      · rw [hothers] at hcs
        cases hcs
      · rw [hothers] at hcs
        cases hcs
        exact ⟨c, others, rfl, rfl⟩

theorem ofPem_of_readBundle_nil {path : String}
    (h : (Pem.readBundle path (Bytes.ofUtf8 text)).outcome = .ok []) :
    ofPem text = .error (.pem .malformedFraming) ∨
      ∃ b, Block.first (Bytes.ofUtf8 text) = .ok b ∧ ¬ b.IsCertificate ∧
        ofPem text = .error (.pemLabel b.label) := by
  obtain ⟨bs, hall, -⟩ := Pem.exists_blocks_of_readBundle h
  have hfirst := Block.first_of_all hall
  rcases bs with _ | ⟨b, bs⟩
  · exact .inl (ofPem_of_error hfirst)
  · refine .inr ⟨b, hfirst, ?_⟩
    by_cases hlabel : b.IsCertificate
    · obtain ⟨c, others, hnil, -⟩ := ofPem_of_readBundle h hfirst hlabel
      cases hnil
    · exact ⟨hlabel, ofPem_of_other hfirst hlabel⟩

/-- **A text and a bundle are read alike.** The certificate of a text is the first one of the bundle,
or the bundle fails, and then what follows the first block fails alone and for the same reason. The
first certificate of a bundle whose first block is labelled as one is that of the text. Where a bundle
is empty, its text has no block, or one with another label in front. -/
theorem ofPem_agrees_readBundle (text path : String) :
    (∀ c, ofPem text = .ok c →
      ∃ f rest, Frame.next? (Bytes.ofUtf8 text) = some (f, rest) ∧
        ((∃ others, (Pem.readBundle path rest).outcome = .ok others ∧
            (Pem.readBundle path (Bytes.ofUtf8 text)).outcome = .ok (c :: others)) ∨
          ∃ fault, (Pem.readBundle path rest).outcome = .error (.trustStore fault) ∧
            (Pem.readBundle path (Bytes.ofUtf8 text)).outcome = .error (.trustStore fault))) ∧
    (∀ cs b, (Pem.readBundle path (Bytes.ofUtf8 text)).outcome = .ok cs →
      Block.first (Bytes.ofUtf8 text) = .ok b → b.IsCertificate →
      ∃ c others, cs = c :: others ∧ ofPem text = .ok c) ∧
    ((Pem.readBundle path (Bytes.ofUtf8 text)).outcome = .ok [] →
      ofPem text = .error (.pem .malformedFraming) ∨
        ∃ b, Block.first (Bytes.ofUtf8 text) = .ok b ∧ ¬ b.IsCertificate ∧
          ofPem text = .error (.pemLabel b.label)) := by
  refine ⟨fun c hc => ?_, fun cs b h hfirst hlabel => ofPem_of_readBundle h hfirst hlabel,
    ofPem_of_readBundle_nil⟩
  obtain ⟨f, rest, hnext, hbundle⟩ := readBundle_of_ofPem path hc
  refine ⟨f, rest, hnext, ?_⟩
  rcases hrest : (Pem.readBundle path rest).outcome with e | others
  · obtain ⟨fault, rfl⟩ := Pem.readBundle_failsInStore path rest e hrest
    exact .inr ⟨fault, rfl, by rw [hbundle, hrest]; rfl⟩
  · exact .inl ⟨others, rfl, by rw [hbundle, hrest]; rfl⟩

/-! ### A root or a key in front -/

open StoreSource (keyBlock rootBlock hollowBlock bundleText)

/-- The text of octets below `80`. -/
def textOf (data : Bytes) : String := String.ofList (data.map Bytes.charOf)

theorem lt_of_mem_bundleText {bs : List Block}
    (h : ∀ b ∈ bs, (b.armour [Pem.carriageReturn, Pem.lineFeed]).all fun x => decide (x < 0x80)) :
    ∀ x ∈ bundleText bs, x < 0x80 := by
  induction bs with
  | nil =>
    intro x hx
    rw [List.mem_singleton.mp hx]
    decide
  | cons b bs ih =>
    intro x hx
    rw [bundleText, List.mem_append, List.mem_append] at hx
    rcases hx with hx | hx | hx
    · have hline : (Bytes.ofAscii "\r\nNext:\n").all fun x => decide (x < 0x80) := by decide
      exact of_decide_eq_true (List.all_eq_true.mp hline x hx)
    · exact of_decide_eq_true (List.all_eq_true.mp (h b List.mem_cons_self) x hx)
    · exact ih (fun d hd => h d (List.mem_cons_of_mem _ hd)) x hx

theorem all_textOf {bs : List Block} (h : ∀ b ∈ bs, b ∈ [rootBlock, keyBlock, hollowBlock]) :
    Block.all (Bytes.ofUtf8 (textOf (bundleText bs))) = .ok bs := by
  have hblocks : ∀ b ∈ [rootBlock, keyBlock, hollowBlock],
      (b.label ≠ "" ∧ '-' ∉ b.label.toList) ∧
        (b.armour [Pem.carriageReturn, Pem.lineFeed]).all fun x => decide (x < 0x80) := by
    decide +kernel
  rw [Bytes.ofUtf8_eq, textOf, Text.octets, String.toList_ofList,
    Bytes.flatMap_charOf (lt_of_mem_bundleText fun b hb => (hblocks b (h b hb)).2)]
  exact Block.all_of_written (StoreSource.written_bundleText fun b hb => (hblocks b (h b hb)).1)

def rootsText : String := textOf (bundleText [rootBlock, keyBlock, rootBlock])

def spoiltText : String := textOf (bundleText [rootBlock, hollowBlock])

def keyText : String := textOf (bundleText [keyBlock])

theorem all_rootsText : Block.all (Bytes.ofUtf8 rootsText) = .ok [rootBlock, keyBlock, rootBlock] :=
  all_textOf (by simp)

theorem all_spoiltText : Block.all (Bytes.ofUtf8 spoiltText) = .ok [rootBlock, hollowBlock] :=
  all_textOf (by simp)

theorem all_keyText : Block.all (Bytes.ofUtf8 keyText) = .ok [keyBlock] :=
  all_textOf (by simp)

/-- A bundle of roots, one that is spoilt behind its first root, and a key. -/
theorem ofPem_agrees_rootsText :
    (∃ c others, ofPem rootsText = .ok c ∧
      (Pem.readBundle "roots.pem" (Bytes.ofUtf8 rootsText)).outcome = .ok (c :: others)) ∧
    (∃ f rest fault, Frame.next? (Bytes.ofUtf8 spoiltText) = some (f, rest) ∧
      (Pem.readBundle "roots.pem" rest).outcome = .error (.trustStore fault)) ∧
    ∃ fault, ofPem keyText = .error fault := by
  refine ⟨?_, ?_, ?_⟩
  · have hdecodes : ∀ b ∈ [rootBlock, keyBlock, rootBlock], b.IsCertificate → b.Decodes := by
      simp only [List.forall_mem_cons]
      exact ⟨fun _ => StoreSource.rootBlock_decodes, fun h => absurd h (by decide),
        fun _ => StoreSource.rootBlock_decodes, by simp⟩
    obtain ⟨cs, hcs⟩ := Pem.certificates_outcome_ok "roots.pem" hdecodes
    have hbundle : (Pem.readBundle "roots.pem" (Bytes.ofUtf8 rootsText)).outcome = .ok cs := by
      rw [Pem.readBundle_of_all all_rootsText, hcs]
    obtain ⟨c, others, rfl, hc⟩ := (ofPem_agrees_readBundle rootsText "roots.pem").2.1 cs rootBlock
      hbundle (Block.first_of_all all_rootsText) rfl
    exact ⟨c, others, hc, hbundle⟩
  · obtain ⟨c, hc⟩ := StoreSource.rootBlock_decodes
    have hpem : ofPem spoiltText = .ok c :=
      ofPem_eq_ok_iff.mpr ⟨rootBlock, Block.first_of_all all_spoiltText, rfl, hc⟩
    obtain ⟨f, rest, hnext, ⟨others, -, hok⟩ | ⟨fault, hrest, -⟩⟩ :=
      (ofPem_agrees_readBundle spoiltText "roots.pem").1 c hpem
    · have hhollow : (Pem.certificates "roots.pem" [hollowBlock]).outcome =
          .error (.trustStore (.certificate "roots.pem" (.undecodable hollowBlock.content))) :=
        Pem.certificates_cons_error "roots.pem" rfl StoreSource.ofDer_hollowBlock
      rw [Pem.readBundle_of_all all_spoiltText, Pem.certificates_cons_ok "roots.pem" rfl hc,
        hhollow] at hok
      cases hok
    · exact ⟨f, rest, fault, hnext, hrest⟩
  · have hempty : (Pem.readBundle "roots.pem" (Bytes.ofUtf8 keyText)).outcome = .ok [] := by
      rw [Pem.readBundle_of_all all_keyText]
      exact Pem.certificates_cons_other "roots.pem" (by decide)
    rcases (ofPem_agrees_readBundle keyText "roots.pem").2.2 hempty with h | ⟨b, -, -, h⟩
    · exact ⟨_, h⟩
    · exact ⟨_, h⟩

end Certificate

end ChainOfTrust
