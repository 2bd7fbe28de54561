import RecordLayer.Error.Corruption

/-!
# Protocol errors

What a TLS implementation can find wrong with its peer, with a configuration or with itself. Each
cause is a constructor; `ProtocolError.message` is the only place that words them.
-/

namespace RecordLayer

/-- The content types of records, 20 to 24 on the wire. -/
inductive ContentType where
  | changeCipherSpec
  | alert
  | handshake
  | applicationData
  | heartbeat
  deriving DecidableEq

namespace ContentType

def code : ContentType → UInt8
  | changeCipherSpec => 20
  | alert => 21
  | handshake => 22
  | applicationData => 23
  | heartbeat => 24

def ofCode? (code : UInt8) : Option ContentType :=
  [changeCipherSpec, alert, handshake, applicationData, heartbeat].find? (·.code == code)

def name : ContentType → String
  | changeCipherSpec => "ChangeCipherSpec"
  | alert => "Alert"
  | handshake => "Handshake"
  | applicationData => "ApplicationData"
  | heartbeat => "Heartbeat"

end ContentType

/-- The type byte of a handshake message. -/
structure HandshakeType where
  code : UInt8
  deriving DecidableEq

namespace HandshakeType

def registry : List (UInt8 × String) :=
  [(0, "HelloRequest"), (1, "ClientHello"), (2, "ServerHello"), (3, "HelloVerifyRequest"),
   (4, "NewSessionTicket"), (5, "EndOfEarlyData"), (6, "HelloRetryRequest"),
   (8, "EncryptedExtensions"), (11, "Certificate"), (12, "ServerKeyExchange"),
   (13, "CertificateRequest"), (14, "ServerHelloDone"), (15, "CertificateVerify"),
   (16, "ClientKeyExchange"), (20, "Finished"), (21, "CertificateURL"), (22, "CertificateStatus"),
   (24, "KeyUpdate"), (25, "CompressedCertificate"), (254, "MessageHash")]

def clientHello : HandshakeType := ⟨1⟩
def serverHello : HandshakeType := ⟨2⟩
def newSessionTicket : HandshakeType := ⟨4⟩
def endOfEarlyData : HandshakeType := ⟨5⟩
def helloRetryRequest : HandshakeType := ⟨6⟩
def encryptedExtensions : HandshakeType := ⟨8⟩
def certificate : HandshakeType := ⟨11⟩
def serverKeyExchange : HandshakeType := ⟨12⟩
def certificateRequest : HandshakeType := ⟨13⟩
def serverHelloDone : HandshakeType := ⟨14⟩
def certificateVerify : HandshakeType := ⟨15⟩
def clientKeyExchange : HandshakeType := ⟨16⟩
def finished : HandshakeType := ⟨20⟩
def certificateStatus : HandshakeType := ⟨22⟩
def keyUpdate : HandshakeType := ⟨24⟩
def compressedCertificate : HandshakeType := ⟨25⟩
def messageHash : HandshakeType := ⟨254⟩

def name (t : HandshakeType) : String :=
  match registry.lookup t.code with
  | some registered => registered
  | none => "HandshakeType(0x" ++ Alert.hex t.code.toNat ++ ")"

end HandshakeType

/-- Well-formed messages that the protocol forbids. -/
inductive Misbehaviour where
  | tooManyWarningAlerts
  | illegalChangeCipherSpec
  | interleavedHandshakeMessage
  /-- Something comes together with a handshake message after which the keys change. -/
  | pendingFragment
  | tooManyEmptyFragments
  | notOneHostName
  | hostNameDiffersOnRetry
  | incorrectCompressions
  | duplicateKeyShares
  | duplicateCertificateCompressions
  | earlyDataOnRetry
  | missingPreSharedKeysOnRetry
  | refusedRetry
  | cipherSuiteDiffersOnRetry
  | missingPreSharedKeyModes
  | missingBinder
  | mismatchedBinders
  | invalidKeyShare
  | unadvertisedSignatureScheme
  /-- A server asks for a key that it was given. -/
  | retryWithOfferedGroup
  | retryWithWrongSession
  | wrongGroupForKeyShare
  /-- A server answers an extension that was not sent. -/
  | unsolicitedExtension
  | unofferedSuite
  /-- A server that speaks TLS 1.3 was made to speak TLS 1.2. -/
  | downgrade
  deriving DecidableEq

def Misbehaviour.name : Misbehaviour → String
  | tooManyWarningAlerts => "TooManyWarningAlertsReceived"
  | illegalChangeCipherSpec => "IllegalMiddleboxChangeCipherSpec"
  | interleavedHandshakeMessage => "MessageInterleavedWithHandshakeMessage"
  | pendingFragment => "KeyEpochWithPendingFragment"
  | tooManyEmptyFragments => "TooManyEmptyFragments"
  | notOneHostName => "ServerNameMustContainOneHostName"
  | hostNameDiffersOnRetry => "ServerNameDifferedOnRetry"
  | incorrectCompressions => "OfferedIncorrectCompressions"
  | duplicateKeyShares => "OfferedDuplicateKeyShares"
  | duplicateCertificateCompressions => "OfferedDuplicateCertificateCompressions"
  | earlyDataOnRetry => "EarlyDataAttemptedInSecondClientHello"
  | missingPreSharedKeysOnRetry => "MissingPskExtensionInSecondClientHello"
  | refusedRetry => "RefusedToFollowHelloRetryRequest"
  | cipherSuiteDiffersOnRetry => "CipherSuiteDifferedOnRetry"
  | missingPreSharedKeyModes => "MissingPskModesExtension"
  | missingBinder => "MissingBinderInPskExtension"
  | mismatchedBinders => "PskExtensionWithMismatchedIdsAndBinders"
  | invalidKeyShare => "InvalidKeyShare"
  | unadvertisedSignatureScheme => "SignedHandshakeWithUnadvertisedSigScheme"
  | retryWithOfferedGroup => "IllegalHelloRetryRequestWithOfferedGroup"
  | retryWithWrongSession => "IllegalHelloRetryRequestWithWrongSessionId"
  | wrongGroupForKeyShare => "WrongGroupForKeyShare"
  | unsolicitedExtension => "UnsolicitedServerHelloExtension"
  | unofferedSuite => "SelectedUnofferedCipherSuite"
  | downgrade => "AttemptedDowngradeToTls12WhenTls13IsSupported"

/-- Why two peers have nothing in common. -/
inductive Incompatibility where
  | noCipherSuitesInCommon
  | noGroupsInCommon
  | noSignatureSchemesInCommon
  | tls12NotOffered
  | tls12NotOfferedOrEnabled
  | supportedVersionsRequired
  | signatureAlgorithmsRequired
  | keyShareRequired
  | nullCompressionRequired
  | uncompressedPointsRequired
  | incorrectCertificateTypes
  | serverVersionDisabled
  deriving DecidableEq

def Incompatibility.name : Incompatibility → String
  | noCipherSuitesInCommon => "NoCipherSuitesInCommon"
  | noGroupsInCommon => "NoKxGroupsInCommon"
  | noSignatureSchemesInCommon => "NoSignatureSchemesInCommon"
  | tls12NotOffered => "Tls12NotOffered"
  | tls12NotOfferedOrEnabled => "Tls12NotOfferedOrEnabled"
  | supportedVersionsRequired => "SupportedVersionsExtensionRequired"
  | signatureAlgorithmsRequired => "SignatureAlgorithmsExtensionRequired"
  | keyShareRequired => "KeyShareExtensionRequired"
  | nullCompressionRequired => "NullCompressionRequired"
  | uncompressedPointsRequired => "UncompressedEcPointsRequired"
  | incorrectCertificateTypes => "IncorrectCertificateTypeExtension"
  | serverVersionDisabled => "ServerTlsVersionIsDisabledByOurConfig"

/-- What is wrong with a certificate or a revocation list. -/
inductive CertificateFault where
  | badEncoding
  | unknownIssuer
  | badSignature
  | authorityAsEndEntity
  | endEntityAsAuthority
  /-- The search for a trusted issuer takes too long. -/
  | tooManySignatures
  /-- The algorithm that signed it is not one of the issuer's key; both by their identifiers. -/
  | algorithmMismatch (signature key : List UInt8)
  | wrongName (expected presented : String)
  deriving DecidableEq

namespace CertificateFault

/-- An algorithm identifier as a list of its bytes. -/
def showIdentifier (identifier : List UInt8) : String :=
  "[" ++ ", ".intercalate (identifier.map fun b => toString b.toNat) ++ "]"

def name : CertificateFault → String
  | badEncoding => "BadEncoding"
  | unknownIssuer => "UnknownIssuer"
  | badSignature => "BadSignature"
  | authorityAsEndEntity => "Other(OtherError(CaUsedAsEndEntity))"
  | endEntityAsAuthority => "Other(OtherError(EndEntityUsedAsCa))"
  | tooManySignatures => "Other(OtherError(MaximumSignatureChecksExceeded))"
  | algorithmMismatch signature key =>
    "UnsupportedSignatureAlgorithmForPublicKeyContext \x7b signature_algorithm_id: " ++
      showIdentifier signature ++ ", public_key_algorithm_id: " ++ showIdentifier key ++ " \x7d"
  | wrongName expected presented =>
    "certificate not valid for name \"" ++ expected ++
      "\"; certificate is only valid for DnsName(\"" ++ presented ++ "\")"

end CertificateFault

inductive ProtocolError where
  | inappropriateMessage (got : ContentType) (expected : List ContentType)
  | inappropriateHandshake (got : HandshakeType) (expected : List HandshakeType)
  | invalidMessage (corruption : Corruption)
  | peerMisbehaved (fault : Misbehaviour)
  | peerIncompatible (reason : Incompatibility)
  | decryptFailed
  | encryptFailed
  | oversizedRecord
  | noCertificatesPresented
  | invalidCertificate (fault : CertificateFault)
  | invalidRevocationList (fault : CertificateFault)
  | unsupportedNameType
  | general (text : String)
  | currentTimeUnavailable
  | randomBytesUnavailable
  | handshakeNotComplete
  | noApplicationProtocol
  | badMaxFragmentSize
  | inconsistentKeys
  | alertReceived (alert : Alert)
  deriving DecidableEq

namespace ProtocolError

/-- Alternatives in a message. -/
def anyOf (names : List String) : String :=
  " or ".intercalate names

def message : ProtocolError → String
  | inappropriateMessage got expected =>
    "received unexpected message: got " ++ got.name ++ " when expecting " ++
      anyOf (expected.map (·.name))
  | inappropriateHandshake got expected =>
    "received unexpected handshake message: got " ++ got.name ++ " when expecting " ++
      anyOf (expected.map (·.name))
  | invalidMessage corruption => "received corrupt message of type " ++ corruption.name
  | peerMisbehaved fault => "peer misbehaved: " ++ fault.name
  | peerIncompatible reason => "peer is incompatible: " ++ reason.name
  | decryptFailed => "cannot decrypt peer's message"
  | encryptFailed => "cannot encrypt message"
  | oversizedRecord => "peer sent excess record size"
  | noCertificatesPresented => "peer sent no certificates"
  | invalidCertificate fault => "invalid peer certificate: " ++ fault.name
  | invalidRevocationList fault => "invalid certificate revocation list: " ++ fault.name
  | unsupportedNameType => "presented server name type wasn't supported"
  | general text => "unexpected error: " ++ text
  | currentTimeUnavailable => "failed to get current time"
  | randomBytesUnavailable => "failed to get random bytes"
  | handshakeNotComplete => "handshake not complete"
  | noApplicationProtocol => "peer doesn't support any known protocol"
  | badMaxFragmentSize => "the supplied max_fragment_size was too small or large"
  | inconsistentKeys => "keys may not be consistent: KeyMismatch"
  | alertReceived alert => "received fatal alert: " ++ alert.name

/-- A received alert has the category of the alert. -/
def category : ProtocolError → Category
  | inappropriateMessage .. | inappropriateHandshake .. | invalidMessage _ | peerMisbehaved _
  | peerIncompatible _ | decryptFailed | encryptFailed | oversizedRecord => .integrity
  | noCertificatesPresented | invalidCertificate _ | invalidRevocationList _
  | unsupportedNameType => .authentication
  | alertReceived alert => alert.category
  | general _ | currentTimeUnavailable | randomBytesUnavailable | handshakeNotComplete
  | noApplicationProtocol | badMaxFragmentSize | inconsistentKeys => .internal

end ProtocolError

end RecordLayer
