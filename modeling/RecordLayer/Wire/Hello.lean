import RecordLayer.Wire.Extension
import RecordLayer.Wire.Message

/-!
# Hellos

The first message of each side. A client offers versions, suites, groups and signature schemes, most
of them in extensions; a server answers with its choice, or asks for another hello.

* `ClientHello.read` and `ClientHello.encode`;
* `ServerHello.read` and `ServerHello.encode`, for both kinds of answer.
-/

namespace RecordLayer.Wire

/-! ### Registered numbers -/

/-- The version numbers of TLS 1.2 and 1.3. -/
def version12 : Nat := 0x0303
def version13 : Nat := 0x0304

def nullCompression : Nat := 0

/-- The suite by which a client says that it knows of secure renegotiation. -/
def renegotiationSuite : Nat := 0x00ff

def uncompressedPoints : Nat := 0

/-- The types of certificates: signed ones, and bare keys. -/
def signedCertificate : Nat := 0
def rawPublicKey : Nat := 2

def randomLength : Nat := 32

def maxSessionId : Nat := 32

def readSessionId : Reader Bytes := do
  let length ← Reader.plain 1
  if maxSessionId < length then throw (.trailingData "SessionID")
  Reader.take length (.missingData "SessionID")

def readRandom : Reader Bytes :=
  Reader.take randomLength (.missingData "Random")

/-! ### Client hellos -/

structure ClientHello where
  /-- The version number that stood for the newest version before there were extensions. -/
  legacyVersion : Nat
  random : Bytes
  sessionId : Bytes
  suites : List Nat
  compressions : List Nat
  extensions : List Extension
  deriving DecidableEq

namespace ClientHello

def read : Reader ClientHello := do
  let legacyVersion ← Reader.number 2 "ProtocolVersion"
  let random ← readRandom
  let sessionId ← readSessionId
  let suites ← Reader.list (Reader.filled 2 (.illegalEmptyList "CipherSuites"))
    (Reader.number 2 "CipherSuite")
  let compressions ← Reader.list (Reader.filled 1 (.illegalEmptyList "Compressions"))
    (Reader.number 1 "Compression")
  let extensions ← ExtensionBlock.clientHello.readOptional
  Reader.finish "ClientHelloPayload"
  return { legacyVersion, random, sessionId, suites, compressions, extensions }

def encode (h : ClientHello) : Message :=
  ⟨.clientHello,
    number 2 h.legacyVersion ++ h.random ++ vector 1 h.sessionId ++
      vector 2 (h.suites.flatMap (number 2)) ++ vector 1 (h.compressions.flatMap (number 1)) ++
      Extension.encodeAll h.extensions⟩

/-- The value of an extension, if it is there. -/
def find? {α : Type} (h : ClientHello) (code : Nat) (r : Reader α) : Option α :=
  Extension.find? h.extensions code r

def serverName? (h : ClientHello) : Option Extension.ServerName :=
  h.find? Extension.serverName Extension.readServerName

def versions? (h : ClientHello) : Option (List Nat) :=
  h.find? Extension.supportedVersions Extension.readVersions

def signatureSchemes? (h : ClientHello) : Option (List Nat) :=
  h.find? Extension.signatureAlgorithms Extension.readSignatureAlgorithms

/-- The groups that are offered, in the client's order. -/
def groups (h : ClientHello) : List Nat :=
  (h.find? Extension.groups Extension.readGroups).getD []

def pointFormats? (h : ClientHello) : Option (List Nat) :=
  h.find? Extension.pointFormats Extension.readPointFormats

def keyShares? (h : ClientHello) : Option (List Extension.KeyShare) :=
  h.find? Extension.keyShare Extension.readKeyShares

def certificateCompressions (h : ClientHello) : List Nat :=
  (h.find? Extension.certificateCompression Extension.readCompressions).getD []

/-- The types of certificates that are offered in one of the two extensions for them. -/
def certificateTypes (h : ClientHello) (code : Nat) : List Nat :=
  (h.find? code Extension.readCertificateTypes).getD []

/-- The ticket of an earlier session. -/
def ticket (h : ClientHello) : Bytes :=
  (h.find? Extension.sessionTicket Reader.rest).getD []

def preSharedKeys? (h : ClientHello) : Option Extension.PreSharedKeys :=
  h.find? Extension.preSharedKey Extension.readPreSharedKeys

def has (h : ClientHello) (code : Nat) : Bool :=
  Extension.has h.extensions code

/-- Whether the client knows of secure renegotiation. -/
def isSecure (h : ClientHello) : Bool :=
  h.has Extension.renegotiation || h.suites.contains renegotiationSuite

end ClientHello

/-! ### Server hellos -/

structure ServerHello where
  random : Bytes
  sessionId : Bytes
  suite : Nat
  extensions : List Extension
  deriving DecidableEq

namespace ServerHello

/-- The random bytes that make a server hello a request for another client hello. -/
def retryRandom : Bytes :=
  number 32 0xcf21ad74e59a6111be1d8c021e65b891c2a211167abb8c5e079e09e2c8a8339c

def isRetry (h : ServerHello) : Bool :=
  h.random == retryRandom

def read : Reader ServerHello := do
  discard <| Reader.number 2 "ProtocolVersion"
  let random ← readRandom
  let sessionId ← readSessionId
  let suite ← Reader.number 2 "CipherSuite"
  let compression ← Reader.number 1 "Compression"
  if random == retryRandom then
    if compression ≠ nullCompression then throw .unsupportedCompression
    return { random, sessionId, suite, extensions := ← ExtensionBlock.retryRequest.read }
  let extensions ← ExtensionBlock.serverHello.readOptional
  Reader.finish "ServerHelloPayload"
  return { random, sessionId, suite, extensions }

/-- Whether a version is chosen by an extension; without it the version is TLS 1.2. -/
def choosesVersion (h : ServerHello) : Bool :=
  Extension.has h.extensions Extension.supportedVersions

def keyShare? (h : ServerHello) : Option Extension.KeyShare :=
  Extension.find? h.extensions Extension.keyShare Extension.readKeyShare

/-- The group that a key is asked for in. -/
def retryGroup? (h : ServerHello) : Option Nat :=
  Extension.find? h.extensions Extension.keyShare (Reader.number 2 "NamedGroup")

def encode (h : ServerHello) : Message :=
  ⟨.serverHello,
    number 2 version12 ++ h.random ++ vector 1 h.sessionId ++ number 2 h.suite ++
      number 1 nullCompression ++ Extension.encodeAll h.extensions⟩

end ServerHello

end RecordLayer.Wire
