import RecordLayer.Error.Protocol

/-!
# Faults

A fault ends a session. It is an error for the one who found it and, mostly, an alert for the peer.
-/

namespace RecordLayer.Symbolic

/-- An error together with the alert that tells the peer. -/
structure Fault where
  error : ProtocolError
  alert : Option Alert
  deriving DecidableEq

namespace Fault

/-- The peer is not told. -/
def silent (error : ProtocolError) : Fault :=
  ⟨error, none⟩

def corrupt (corruption : Corruption) : Fault :=
  ⟨.invalidMessage corruption, some corruption.alert⟩

def unexpected (error : ProtocolError) : Fault :=
  ⟨error, some .unexpectedMessage⟩

def misbehaved (fault : Misbehaviour) (alert : Alert) : Fault :=
  ⟨.peerMisbehaved fault, some alert⟩

def incompatible (reason : Incompatibility) (alert : Alert) : Fault :=
  ⟨.peerIncompatible reason, some alert⟩

/-- The alert that answers what is wrong with a certificate. -/
def certificateAlert : CertificateFault → Alert
  | .badEncoding | .wrongName _ _ => .badCertificate
  | .unknownIssuer => .unknownCA
  | .badSignature | .algorithmMismatch _ _ => .decryptError
  | .authorityAsEndEntity | .endEntityAsAuthority | .tooManySignatures => .certificateUnknown

def certificate (fault : CertificateFault) : Fault :=
  ⟨.invalidCertificate fault, some (certificateAlert fault)⟩

end Fault

end RecordLayer.Symbolic
