import ChainOfTrust.ServerAuth.Verifier
import ChainOfTrust.Session

/-!
# The supplementary verifier

A `SupplementaryVerifier` asks a trust adapter first and then an inner verifier. A server is accepted
early only if the adapter vouches for it; an error of the adapter ends the handshake; everything else
is for the inner verifier to decide.
-/

namespace ChainOfTrust

set_option autoImplicit false

open ServerAuth (ChannelError)

structure SupplementaryVerifier where
  adapter : TrustAdapter
  inner : ServerVerifier

/-- What a verification reports, how it ends, and the session after it. -/
structure Verification where
  events : List Event
  outcome : Except ChannelError Unit
  session : Session

namespace SupplementaryVerifier

/-- The intermediates that can be decoded, and a report of the others. -/
def decodeIntermediates : List Bytes → List Event × List Certificate
  | [] => ([], [])
  | der :: rest =>
    let (events, cs) := decodeIntermediates rest
    match Certificate.ofDer der with
    | .ok c => (events, c :: cs)
    | .error fault => (.intermediateUndecodable fault :: events, cs)

/-- The presented chain, if its leaf can be decoded. -/
def presentedChain (x : Presentation) : List Event × Option (List Certificate) :=
  match Certificate.ofDer x.leaf with
  | .error fault => ([.leafUndecodable fault], none)
  | .ok leaf =>
    let (events, cs) := decodeIntermediates x.intermediates
    (events, some (leaf :: cs))

def abortedError (w : Wording) (fault : TrustError) : ChannelError :=
  .general ("Supplementary trust check aborted: " ++ fault.message w)

def verifyCertificate (p : Provider) (now : Instant) (v : SupplementaryVerifier) (s : Session)
    (x : Presentation) : Verification :=
  match presentedChain x with
  | (events, none) => ⟨events, v.inner.verifyCertificate x, s⟩
  | (events, some chain) =>
    let (r, s) := s.isTrusted p now v.adapter chain unknownAuthType
    let events := events ++ r.events
    match r.outcome with
    | .error fault => ⟨events, .error (abortedError p.wording fault), s⟩
    | .ok true => ⟨events ++ [.acceptedEarly x.serverName.text], .ok (), s⟩
    | .ok false => ⟨events, v.inner.verifyCertificate x, s⟩

/-- Signatures of handshakes are for the inner verifier alone. -/
def verifyHandshake (v : SupplementaryVerifier) (version : ChannelVersion)
    (x : HandshakeSignature) : Except ChannelError Unit := v.inner.verifyHandshake version x

def schemes (v : SupplementaryVerifier) : List ChannelScheme := v.inner.schemes

end SupplementaryVerifier

end ChainOfTrust
