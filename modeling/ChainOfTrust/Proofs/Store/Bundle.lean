import ChainOfTrust.Anchors
import ChainOfTrust.Proofs.Certificate.SignedPart
import ChainOfTrust.Proofs.Pem.Armour

/-!
# Bundles that were written

* `Pem.map_der_of_certificates`, `Pem.certificates_outcome_error` : the certificates of a list of
  blocks, and the first block that holds none;
* `StoreSource.load_of_written` : the same for a file of armoured blocks.
-/

namespace ChainOfTrust

set_option autoImplicit false

open Pem (Block Written)

theorem Certificate.der_of_ofDer {der : Bytes} {c : Certificate} (h : ofDer der = .ok c) :
    c.der = der := by
  unfold ofDer at h
  split at h
  · cases h
  · split at h
    · cases h
    · cases h
      rfl

/-- Its label says that the block holds a certificate. -/
abbrev Pem.Block.IsCertificate (b : Block) : Prop := b.label = certificateLabel

def Pem.Block.Decodes (b : Block) : Prop := ∃ c, Certificate.ofDer b.content = .ok c

theorem Pem.Block.ofDer_of_not_decodes {b : Block} (h : ¬ b.Decodes) :
    Certificate.ofDer b.content = .error (.undecodable b.content) := by
  rcases hc : Certificate.ofDer b.content with fault | c
  · rw [(Certificate.ofDer_eq_error_iff.mp hc).2]
  · exact absurd ⟨c, hc⟩ h

namespace Pem

variable {b : Block} {bs before after : List Block}

theorem certificates_cons_other (path : String) (hb : ¬ b.IsCertificate) :
    (certificates path (b :: bs)).outcome = (certificates path bs).outcome := by
  rw [certificates, if_pos hb]
  rfl

theorem certificates_cons_ok (path : String) (hb : b.IsCertificate) {c : Certificate}
    (hc : Certificate.ofDer b.content = .ok c) :
    (certificates path (b :: bs)).outcome = (certificates path bs).outcome.map (c :: ·) := by
  rw [certificates, if_neg (not_not.mpr hb), hc]
  rfl

theorem certificates_cons_error (path : String) (hb : b.IsCertificate) {fault : CertificateFault}
    (hc : Certificate.ofDer b.content = .error fault) :
    (certificates path (b :: bs)).outcome = .error (.trustStore (.certificate path fault)) := by
  rw [certificates, if_neg (not_not.mpr hb), hc]

/-- The certificates are the contents of the blocks that say they hold one. -/
theorem map_der_of_certificates {path : String} {cs : List Certificate}
    (h : (certificates path bs).outcome = .ok cs) :
    cs.map (·.der) = (bs.filter (·.IsCertificate)).map (·.content) := by
  induction bs generalizing cs with
  | nil =>
    cases h
    rfl
  | cons b bs ih =>
    by_cases hb : b.IsCertificate
    · rw [List.filter_cons_of_pos (by simpa using hb), List.map_cons]
      rcases hc : Certificate.ofDer b.content with fault | c
      · rw [certificates_cons_error path hb hc] at h
        cases h
      · rw [certificates_cons_ok path hb hc] at h
        rcases hrest : (certificates path bs).outcome with e | others
        · rw [hrest] at h
          cases h
        · rw [hrest] at h
          cases h
          rw [List.map_cons, ih hrest, Certificate.der_of_ofDer hc]
    · rw [List.filter_cons_of_neg (by simpa using hb)]
      rw [certificates_cons_other path hb] at h
      exact ih h

theorem certificates_outcome_ok (path : String) (h : ∀ b ∈ bs, b.IsCertificate → b.Decodes) :
    ∃ cs, (certificates path bs).outcome = .ok cs := by
  induction bs with
  | nil => exact ⟨[], rfl⟩
  | cons b bs ih =>
    obtain ⟨cs, hcs⟩ := ih fun d hd => h d (List.mem_cons_of_mem _ hd)
    by_cases hb : b.IsCertificate
    · obtain ⟨c, hc⟩ := h b List.mem_cons_self hb
      refine ⟨c :: cs, ?_⟩
      rw [certificates_cons_ok path hb hc, hcs]
      rfl
    · refine ⟨cs, ?_⟩
      rw [certificates_cons_other path hb, hcs]

theorem certificates_outcome_error (path : String)
    (hbefore : ∀ d ∈ before, d.IsCertificate → d.Decodes) (hb : b.IsCertificate)
    {fault : CertificateFault} (hfault : Certificate.ofDer b.content = .error fault) :
    (certificates path (before ++ b :: after)).outcome =
      .error (.trustStore (.certificate path fault)) := by
  induction before with
  | nil => exact certificates_cons_error path hb hfault
  | cons d before ih =>
    have hrest := ih fun x hx => hbefore x (List.mem_cons_of_mem _ hx)
    rw [List.cons_append]
    by_cases hd : d.IsCertificate
    · obtain ⟨c, hc⟩ := hbefore d List.mem_cons_self hd
      rw [certificates_cons_ok path hd hc, hrest]
      rfl
    · rw [certificates_cons_other path hd, hrest]

theorem readBundle_of_all {data : Bytes} (h : Block.all data = .ok bs) (path : String) :
    readBundle path data = certificates path bs := by
  unfold readBundle
  rw [h]

end Pem

namespace StoreSource

/-- The message about a block ends in what is said of its octets. -/
theorem message_undecodable (path : String) {w : Wording} {octets : Bytes}
    (h : w.certificate octets ≠ "") :
    (TrustError.trustStore (.certificate path (.undecodable octets))).message w =
      "Trust store unavailable: " ++ path ++ ": Certificate parsing failed: " ++
        "Failed to parse DER certificate: " ++ w.certificate octets := by
  have hwords : CertificateFault.message (.undecodable octets) w =
      "Failed to parse DER certificate: " ++ w.certificate octets := by
    show becauseOf "Failed to parse DER certificate" _ = _
    rw [becauseOf_of_ne h]
    rfl
  show "Trust store unavailable: " ++ (path ++ ": " ++ "Certificate parsing failed: " ++ _) = _
  rw [hwords]
  simp only [String.append_assoc]
  rfl

theorem load_bundle {fs : FileSystem} {path : String} {data : Bytes}
    (h : fs.readFile path = .ok data) :
    (bundle path).load fs = Pem.readBundle path data := by
  simp only [load, h]

/-- **Loading a bundle undoes writing it**: the certificates are those that were written, in their
order and octet for octet, and the first block that says it holds one but does not is the error, which
names its octets and ends in what a decoder says of them. -/
theorem load_of_written {fs : FileSystem} {path : String} {data : Bytes} {blocks : List Block}
    (hread : fs.readFile path = .ok data) (hwritten : Written blocks data) :
    ((∀ b ∈ blocks, b.IsCertificate → b.Decodes) →
      ∃ cs, ((bundle path).load fs).outcome = .ok cs ∧
        cs.map (·.der) = (blocks.filter (·.IsCertificate)).map (·.content)) ∧
    ∀ before b after, blocks = before ++ b :: after →
      (∀ d ∈ before, d.IsCertificate → d.Decodes) → b.IsCertificate → ¬ b.Decodes →
      Certificate.ofDer b.content = .error (.undecodable b.content) ∧
        ((bundle path).load fs).outcome =
          .error (.trustStore (.certificate path (.undecodable b.content))) ∧
        ∀ w : Wording, w.certificate b.content ≠ "" →
          (TrustError.trustStore (.certificate path (.undecodable b.content))).message w =
            "Trust store unavailable: " ++ path ++ ": Certificate parsing failed: " ++
              "Failed to parse DER certificate: " ++ w.certificate b.content := by
  rw [load_bundle hread, Pem.readBundle_of_all (Block.all_of_written hwritten)]
  constructor
  · intro hdecodes
    obtain ⟨cs, hcs⟩ := Pem.certificates_outcome_ok path hdecodes
    exact ⟨cs, hcs, Pem.map_der_of_certificates hcs⟩
  · rintro before b after rfl hbefore hb hno
    have hfault := Block.ofDer_of_not_decodes hno
    exact ⟨hfault, Pem.certificates_outcome_error path hbefore hb hfault,
      fun w hwords => message_undecodable path hwords⟩

/-! ## A root between other blocks -/

def keyBlock : Block := ⟨"PRIVATE KEY", [0x30, 0x00]⟩

def rootBlock : Block := ⟨certificateLabel, rootDer⟩

/-- It says that it holds a certificate. -/
def hollowBlock : Block := ⟨certificateLabel, [0x30, 0x00]⟩

/-- The blocks in the usual form with CRLF, a line of text before each. -/
def bundleText : List Block → Bytes
  | [] => [Pem.lineFeed]
  | b :: bs => Bytes.ofAscii "\r\nNext:\n" ++
      (b.armour [Pem.carriageReturn, Pem.lineFeed] ++ bundleText bs)

theorem written_bundleText {bs : List Block}
    (h : ∀ b ∈ bs, b.label ≠ "" ∧ '-' ∉ b.label.toList) :
    Written bs (bundleText bs) := by
  induction bs with
  | nil => exact .text (by decide)
  | cons b bs ih =>
    obtain ⟨hlabel, hdash⟩ := h b List.mem_cons_self
    exact .block (by decide) (Block.armour_armour (.inr rfl) hlabel hdash)
      (ih fun d hd => h d (List.mem_cons_of_mem _ hd))

/-- A single file in the working directory. -/
def singleFile (content : Bytes) : FileSystem := ⟨.directory [("roots.pem", .file content)], []⟩

theorem readFile_singleFile (content : Bytes) :
    (singleFile content).readFile "roots.pem" = .ok content := by
  rfl

theorem rootBlock_decodes : rootBlock.Decodes := by
  have hsome : (Certificate.ofDer rootDer).toOption.isSome = true := by decide +kernel
  rcases hc : Certificate.ofDer rootDer with fault | c
  · rw [hc] at hsome
    cases hsome
  · exact ⟨c, hc⟩

/-- It says so too, and holds the beginning of one. -/
def cutBlock : Block := ⟨certificateLabel, rootDer.take 100⟩

theorem ofDer_hollowBlock :
    Certificate.ofDer hollowBlock.content = .error (.undecodable hollowBlock.content) :=
  Certificate.ofDer_eq_error_iff.mpr ⟨by decide, rfl⟩

theorem hollowBlock_not_decodes : ¬ hollowBlock.Decodes := by
  rintro ⟨c, hc⟩
  rw [ofDer_hollowBlock] at hc
  cases hc

/-- Two blocks are spoilt, and the first of them is the error. -/
theorem load_rootBundle :
    (∃ cs, ((bundle "roots.pem").load
        (singleFile (bundleText [rootBlock, keyBlock, rootBlock]))).outcome = .ok cs ∧
      cs.map (·.der) = [rootDer, rootDer]) ∧
    ((bundle "roots.pem").load
      (singleFile (bundleText [keyBlock, rootBlock, hollowBlock, cutBlock]))).outcome =
        .error (.trustStore (.certificate "roots.pem" (.undecodable [0x30, 0x00]))) ∧
    (TrustError.trustStore (.certificate "roots.pem" (.undecodable [0x30, 0x00]))).message
      { certificate := fun der => toString der.length ++ " octets" } =
        "Trust store unavailable: roots.pem: Certificate parsing failed: " ++
          "Failed to parse DER certificate: 2 octets" := by
  have hkey : keyBlock.label ≠ "" ∧ '-' ∉ keyBlock.label.toList := by decide
  have hroot : rootBlock.label ≠ "" ∧ '-' ∉ rootBlock.label.toList := by decide
  have hhollow : hollowBlock.label ≠ "" ∧ '-' ∉ hollowBlock.label.toList := hroot
  have hcut : cutBlock.label ≠ "" ∧ '-' ∉ cutBlock.label.toList := hroot
  have hdecodes : ∀ b ∈ [rootBlock, keyBlock, rootBlock], b.IsCertificate → b.Decodes := by
    simp only [List.forall_mem_cons]
    exact ⟨fun _ => rootBlock_decodes, fun h => absurd h (by decide),
      fun _ => rootBlock_decodes, by simp⟩
  have hwhole : Written [rootBlock, keyBlock, rootBlock]
      (bundleText [rootBlock, keyBlock, rootBlock]) := by
    apply written_bundleText
    simp only [List.forall_mem_cons]
    exact ⟨hroot, hkey, hroot, by simp⟩
  have hspoilt : Written [keyBlock, rootBlock, hollowBlock, cutBlock]
      (bundleText [keyBlock, rootBlock, hollowBlock, cutBlock]) := by
    apply written_bundleText
    simp only [List.forall_mem_cons]
    exact ⟨hkey, hroot, hhollow, hcut, by simp⟩
  have hbefore : ∀ b ∈ [keyBlock, rootBlock], b.IsCertificate → b.Decodes := by
    simp only [List.forall_mem_cons]
    exact ⟨fun h => absurd h (by decide), fun _ => rootBlock_decodes, by simp⟩
  obtain ⟨-, hfault, htext⟩ := (load_of_written (readFile_singleFile _) hspoilt).2
    [keyBlock, rootBlock] hollowBlock [cutBlock] rfl hbefore rfl hollowBlock_not_decodes
  exact ⟨(load_of_written (readFile_singleFile _) hwhole).1 hdecodes, hfault,
    htext { certificate := fun der => toString der.length ++ " octets" } (by decide)⟩

end StoreSource

end ChainOfTrust
