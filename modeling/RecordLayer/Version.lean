/-!
# Protocol versions

Four versions can be named in a policy; the TLS implementation speaks only the last two.
-/

namespace RecordLayer

/-- The versions that can be spoken. -/
inductive TlsVersion where
  | tls12
  | tls13
  deriving DecidableEq

def TlsVersion.name : TlsVersion → String
  | tls12 => "TLSv1_2"
  | tls13 => "TLSv1_3"

/-- The versions that a policy can name. -/
inductive ProtocolVersion where
  | tls10
  | tls11
  | tls12
  | tls13
  deriving DecidableEq

namespace ProtocolVersion

def name : ProtocolVersion → String
  | tls10 => "Tls1_0"
  | tls11 => "Tls1_1"
  | tls12 => "Tls1_2"
  | tls13 => "Tls1_3"

/-- Older versions have smaller ranks. -/
def rank : ProtocolVersion → Nat
  | tls10 => 0
  | tls11 => 1
  | tls12 => 2
  | tls13 => 3

/-- The version to speak for it, if it can be spoken. -/
def spoken? : ProtocolVersion → Option TlsVersion
  | tls10 | tls11 => none
  | tls12 => some .tls12
  | tls13 => some .tls13

end ProtocolVersion

end RecordLayer
