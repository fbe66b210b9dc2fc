import ChainOfTrust.Crypto.Standard
import ChainOfTrust.Manager
import ChainOfTrust.Proofs.Chain.Completeness
import ChainOfTrust.Proofs.Verifier.Deferral
import ChainOfTrust.Proofs.Certificate.SignedPart
import ChainOfTrust.Proofs.Chain.Instants
import ChainOfTrust.Proofs.Chain.Lockstep
import ChainOfTrust.Proofs.Chain.Order
import ChainOfTrust.Proofs.Chain.Renewal
import ChainOfTrust.Proofs.Chain.Faults
import ChainOfTrust.Proofs.Chain.Insertion
import ChainOfTrust.Proofs.Session.History
import ChainOfTrust.Proofs.Session.Accounts
import ChainOfTrust.Proofs.Session.Installation
import ChainOfTrust.Proofs.Name.Attributes
import ChainOfTrust.Proofs.Name.Agreement
import ChainOfTrust.Proofs.Config.Documents
import ChainOfTrust.Proofs.Store.Directory
import ChainOfTrust.Proofs.Store.CertificateLines
import ChainOfTrust.Proofs.Signature.Outcomes
import ChainOfTrust.Proofs.Signature.PssParameters
import ChainOfTrust.Proofs.Store.FirstBlock
import ChainOfTrust.Proofs.Chain.Log
import ChainOfTrust.Proofs.Chain.Termination
import ChainOfTrust.Proofs.Chain.OwnIssuer
import ChainOfTrust.Proofs.Session.Interleaving
import ChainOfTrust.Proofs.Text.MatchingForm
