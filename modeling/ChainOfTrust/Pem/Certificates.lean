import ChainOfTrust.Logged
import ChainOfTrust.Pem.Block

/-!
# Certificates in PEM

- `Certificate.ofPem`: the certificate in the first block of a text, which must be labelled as one;
- `readBundle`: the certificates of a whole file in order. Blocks with another label are reported
  and left out.
-/

namespace ChainOfTrust

set_option autoImplicit false

def certificateLabel : String := "CERTIFICATE"

def Certificate.ofPem (text : String) : Except CertificateFault Certificate :=
  match Pem.Block.first (Bytes.ofUtf8 text) with
  | .error fault => .error (.pem fault)
  | .ok block =>
    if block.label = certificateLabel then ofDer block.content else .error (.pemLabel block.label)

namespace Pem

/-- The certificates of the blocks of a file. -/
def certificates (path : String) : List Block → Logged (List Certificate)
  | [] => ⟨[], .ok []⟩
  | b :: rest =>
    if b.label ≠ certificateLabel then (certificates path rest).after [.skippedBlock b.label path]
    else match Certificate.ofDer b.content with
      | .error fault => ⟨[], .error (.trustStore (.certificate path fault))⟩
      | .ok c => (certificates path rest).map (c :: ·)

/-- The certificates of the file at `path`, whose octets are `data`. -/
def readBundle (path : String) (data : Bytes) : Logged (List Certificate) :=
  match Block.all data with
  | .error fault => ⟨[], .error (.trustStore (.block path fault))⟩
  | .ok blocks => certificates path blocks

end Pem

end ChainOfTrust
