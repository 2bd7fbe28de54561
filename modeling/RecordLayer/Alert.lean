import RecordLayer.Error.Category

/-!
# Alerts

An alert is the one-byte code in which a peer says why it closes or gives up. The registered codes
have names; any other code is written in hexadecimal.
-/

namespace RecordLayer

/-- An alert description. -/
structure Alert where
  code : UInt8
  deriving DecidableEq, Inhabited

namespace Alert

/-- The registered alerts. -/
def registry : List (UInt8 × String) :=
  [(0, "CloseNotify"), (10, "UnexpectedMessage"), (20, "BadRecordMac"), (21, "DecryptionFailed"),
   (22, "RecordOverflow"), (30, "DecompressionFailure"), (40, "HandshakeFailure"),
   (41, "NoCertificate"), (42, "BadCertificate"), (43, "UnsupportedCertificate"),
   (44, "CertificateRevoked"), (45, "CertificateExpired"), (46, "CertificateUnknown"),
   (47, "IllegalParameter"), (48, "UnknownCA"), (49, "AccessDenied"), (50, "DecodeError"),
   (51, "DecryptError"), (60, "ExportRestriction"), (70, "ProtocolVersion"),
   (71, "InsufficientSecurity"), (80, "InternalError"), (86, "InappropriateFallback"),
   (90, "UserCanceled"), (100, "NoRenegotiation"), (109, "MissingExtension"),
   (110, "UnsupportedExtension"), (111, "CertificateUnobtainable"), (112, "UnrecognisedName"),
   (113, "BadCertificateStatusResponse"), (114, "BadCertificateHashValue"),
   (115, "UnknownPSKIdentity"), (116, "CertificateRequired"), (120, "NoApplicationProtocol"),
   (121, "EncryptedClientHelloRequired")]

def closeNotify : Alert := ⟨0⟩
def unexpectedMessage : Alert := ⟨10⟩
def badRecordMac : Alert := ⟨20⟩
def handshakeFailure : Alert := ⟨40⟩
def badCertificate : Alert := ⟨42⟩
def certificateUnknown : Alert := ⟨46⟩
def illegalParameter : Alert := ⟨47⟩
def unknownCA : Alert := ⟨48⟩
def decodeError : Alert := ⟨50⟩
def decryptError : Alert := ⟨51⟩
def protocolVersion : Alert := ⟨70⟩
def userCanceled : Alert := ⟨90⟩
def missingExtension : Alert := ⟨109⟩
def unsupportedExtension : Alert := ⟨110⟩
def certificateRequired : Alert := ⟨116⟩

/-- Lower-case hexadecimal digits without padding. -/
def hex (n : Nat) : String :=
  String.ofList (Nat.toDigits 16 n)

def name (a : Alert) : String :=
  match registry.lookup a.code with
  | some registered => registered
  | none => "AlertDescription(0x" ++ hex a.code.toNat ++ ")"

/-- Alerts about certificates and access. -/
def authenticationCodes : List UInt8 :=
  [42, 43, 44, 45, 46, 48, 49, 116]

/-- Alerts about records and messages that were not what the protocol asks for. -/
def integrityCodes : List UInt8 :=
  [10, 20, 22, 40, 47, 50, 51, 70, 71]

def category (a : Alert) : Category :=
  if authenticationCodes.contains a.code then .authentication
  else if integrityCodes.contains a.code then .integrity
  else .internal

end Alert

end RecordLayer
