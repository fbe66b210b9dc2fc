import ChainOfTrust.Proofs.Chain.Lockstep

/-!
# Renewed roots

A root counts through its name and its key. A climb ends as soon as a root vouches, so it never climbs
from one, and it never asks for the fingerprint of one.

* `Renews c d` : `d` is `c`, or both are roots with the same name and the same key;
* `firstVoucher_of_renews` : a scan that is given `d` in the place of `c` stops at the same place;
* `validate_outcome_eq_of_renews` : so a validation has the same outcome.
-/

namespace ChainOfTrust.Chain

set_option autoImplicit false

def Renews (p : Provider) (c d : Certificate) : Prop :=
  c = d ∨
    (isSelfSigned p c).outcome = .ok true ∧ (isSelfSigned p d).outcome = .ok true ∧
      c.subject.agrees d.subject = true ∧ c.publicKey = d.publicKey

variable {p : Provider} {t : Instant} {candidates candidates' cs ds : List Certificate}
variable {s c d : Certificate}

theorem agrees_eq_of_agrees (h : c.subject.agrees d.subject = true) (n : X509.Name) :
    n.agrees c.subject = n.agrees d.subject := by
  unfold X509.Name.agrees at h ⊢
  rw [decide_eq_true_eq] at h
  rw [h]

theorem validateHop_eq_of_renews (h : Renews p c d) :
    validateHop p t s c = validateHop p t s d := by
  rcases h with rfl | ⟨-, -, hname, hkey⟩
  · rfl
  · exact validateHop_congr (agrees_eq_of_agrees hname s.issuer) hkey

/-- The scans find the same, or each finds a root. -/
theorem firstVoucher_of_renews (h : List.Forall₂ (Renews p) cs ds) :
    firstVoucher p t s cs = firstVoucher p t s ds ∨
      ∃ c d, firstVoucher p t s cs = .ok (some c) ∧ firstVoucher p t s ds = .ok (some d) ∧
        (isSelfSigned p c).outcome = .ok true ∧ (isSelfSigned p d).outcome = .ok true := by
  induction h with
  | nil => exact Or.inl rfl
  | @cons c d cs ds hcd _ ih =>
    rw [firstVoucher, firstVoucher, ← validateHop_eq_of_renews hcd]
    cases validateHop p t s c with
    | error e => exact Or.inl rfl
    | ok outcome =>
      cases outcome with
      | noMatch => exact ih
      | invalid reason => exact ih
      | valid =>
        rcases hcd with rfl | ⟨hc, hd, -, -⟩
        · exact Or.inl rfl
        · exact Or.inr ⟨c, d, rfl, rfl, hc, hd⟩

theorem endingAt_alike_of_renews (h : List.Forall₂ (Renews p) candidates candidates')
    (s : Certificate) : (endingAt p t candidates s).Alike (endingAt p t candidates' s) := by
  rcases firstVoucher_of_renews (List.forall₂_reverse_iff.mpr h) with hstep | ⟨c, d, hc, hd, hself⟩
  · rw [endingAt_eq_of_step hstep]
    exact .refl _
  · have hroot : endingAt p t candidates s = .root c := endingAt_eq_root_iff.mpr ⟨hc, hself.1⟩
    have hroot' : endingAt p t candidates' s = .root d := endingAt_eq_root_iff.mpr ⟨hd, hself.2⟩
    rw [hroot, hroot']
    exact ⟨rfl, fun a => iff_of_false nofun nofun⟩

/-- **The renewal of a root changes no outcome.** -/
theorem validate_outcome_eq_of_renews (p : Provider) (t : Instant) (s : Certificate)
    (h : List.Forall₂ (Renews p) candidates candidates') :
    (validate p t s candidates).outcome = (validate p t s candidates').outcome := by
  have halike : ∀ c, True → (endingAt p t candidates c).Alike (endingAt p t candidates' c) := by
    intro c _
    exact endingAt_alike_of_renews h c
  exact climb_outcome_eq_of_alike halike (fun _ _ _ _ => trivial) [s.fingerprint] s trivial

/-! ## An old root -/

def oldRootDer : Bytes :=
  [0x30, 0x81, 0xD9, 0x30, 0x81, 0x8C, 0xA0, 0x03, 0x02, 0x01, 0x02, 0x02, 0x01, 0x09, 0x30, 0x05,
  0x06, 0x03, 0x2B, 0x65, 0x70, 0x30, 0x0E, 0x31, 0x0C, 0x30, 0x0A, 0x06, 0x03, 0x55, 0x04, 0x03,
  0x0C, 0x03, 0x4F, 0x6C, 0x64, 0x30, 0x1E, 0x17, 0x0D, 0x38, 0x30, 0x30, 0x31, 0x30, 0x31, 0x30,
  0x30, 0x30, 0x30, 0x30, 0x30, 0x5A, 0x17, 0x0D, 0x38, 0x30, 0x31, 0x32, 0x33, 0x31, 0x32, 0x33,
  0x35, 0x39, 0x35, 0x39, 0x5A, 0x30, 0x0F, 0x31, 0x0D, 0x30, 0x0B, 0x06, 0x03, 0x55, 0x04, 0x03,
  0x0C, 0x04, 0x52, 0x4F, 0x4F, 0x54, 0x30, 0x2A, 0x30, 0x05, 0x06, 0x03, 0x2B, 0x65, 0x70, 0x03,
  0x21, 0x00, 0xAA, 0x74, 0x92, 0x02, 0xF3, 0x2D, 0xEA, 0xEA, 0x1F, 0xB4, 0x41, 0x78, 0xF3, 0xB4,
  0x12, 0x14, 0x77, 0x12, 0x83, 0x3D, 0x57, 0xB3, 0xF8, 0xD1, 0x35, 0x6C, 0x6E, 0x41, 0x76, 0xC3,
  0x19, 0x20, 0xA3, 0x0E, 0x30, 0x0C, 0x30, 0x0A, 0x06, 0x03, 0x2A, 0x03, 0x04, 0x01, 0x01, 0xFF,
  0x04, 0x00, 0x30, 0x05, 0x06, 0x03, 0x2B, 0x65, 0x70, 0x03, 0x41, 0x00, 0x55, 0x3F, 0x8E, 0x89,
  0x39, 0xB8, 0x4E, 0xBE, 0x2B, 0x43, 0x02, 0x53, 0x66, 0xB8, 0xF7, 0x0E, 0x36, 0xDD, 0xFD, 0x8B,
  0x00, 0xFB, 0x26, 0x60, 0x6B, 0xC5, 0xDA, 0x12, 0x07, 0x05, 0x0F, 0xE9, 0xD9, 0xBF, 0xD6, 0x6D,
  0x52, 0x1A, 0x57, 0x22, 0x13, 0xB1, 0x78, 0xE6, 0x1D, 0xC4, 0x07, 0x32, 0xDE, 0x1F, 0x9F, 0xB9,
  0xF7, 0xE1, 0x7C, 0x78, 0x72, 0x4C, 0x49, 0x17, 0xF7, 0x85, 0x73, 0x01]

/-- A certificate for CN=ROOT from CN=Old under the key of `rootCertificate`, which signed it. It was
valid in 1980, and has a critical extension that nobody knows. -/
def oldRootCertificate : Certificate :=
  (Certificate.ofDer oldRootDer).toOption.get (by decide +kernel)

theorem isSelfSigned_oldRoot :
    (isSelfSigned .standard oldRootCertificate).outcome = .ok true := by
  decide +kernel

theorem validate_leaf_oldRoot :
    List.Forall₂ (Renews .standard) [rootCertificate] [oldRootCertificate] ∧
      (validate .standard 1600000000000000000 leafCertificate [oldRootCertificate]).outcome =
        .ok true := by
  have hrenews : List.Forall₂ (Renews .standard) [rootCertificate] [oldRootCertificate] :=
    .cons (Or.inr ⟨isSelfSigned_root, isSelfSigned_oldRoot, by decide +kernel, by decide +kernel⟩)
      .nil
  refine ⟨hrenews, ?_⟩
  rw [← validate_outcome_eq_of_renews .standard _ leafCertificate hrenews]
  exact validate_leaf

end ChainOfTrust.Chain
