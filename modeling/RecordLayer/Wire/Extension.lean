import RecordLayer.Wire.Address
import RecordLayer.Wire.HostName
import RecordLayer.Wire.Reader

/-!
# Extensions

Hellos and some other messages end in a block of extensions, each a number with a body. A kind of
block understands some extensions and reads their bodies; the others are passed over, or refused.

* `ExtensionBlock.read` reads a block of one kind;
* `Extension.find?` reads the body of one extension of a block again, as a value.
-/

namespace RecordLayer.Wire

structure Extension where
  code : Nat
  body : Bytes := []
  deriving DecidableEq

namespace Extension

/-! ### Numbers -/

def serverName : Nat := 0
def statusRequest : Nat := 5
def groups : Nat := 10
def pointFormats : Nat := 11
def signatureAlgorithms : Nat := 13
def protocols : Nat := 16
def clientCertificateTypes : Nat := 19
def serverCertificateTypes : Nat := 20
def extendedMasterSecret : Nat := 23
def certificateCompression : Nat := 27
def sessionTicket : Nat := 35
def preSharedKey : Nat := 41
def earlyData : Nat := 42
def supportedVersions : Nat := 43
def cookie : Nat := 44
def preSharedKeyModes : Nat := 45
def authorities : Nat := 47
def keyShare : Nat := 51
def transportParameters : Nat := 57
def ticketRequest : Nat := 58
def encryptedHelloOuter : Nat := 0xfd00
def encryptedHello : Nat := 0xfe0d
def renegotiation : Nat := 0xff01

/-! ### Bodies -/

/-- The name that a client asks for. -/
inductive ServerName where
  | host (name : String)
  /-- An address, where only names may stand; it is not taken as a name. -/
  | address
  | invalid
  deriving DecidableEq

def hostNameType : Nat := 0

def toServerName (bs : Bytes) : ServerName :=
  if HostName.isName bs then .host (HostName.normalize bs)
  else if Address.isAddress (HostName.text bs) then .address
  else .invalid

/-- At most one host name; a name of another type ends the list. -/
def readNames : Nat → Option ServerName → Reader ServerName
  | 0, found => return found.getD .invalid
  | left + 1, found => do
    if ← Reader.isDone then return found.getD .invalid
    if (← Reader.number 1 "ServerNameType") = hostNameType then
      let bs ← Reader.filled 2 .illegalEmptyValue
      if found.isSome then throw .serverName
      readNames left (some (toServerName bs))
    else
      discard Reader.rest
      return found.getD .invalid

def readServerName : Reader ServerName := do
  let bs ← Reader.filled 2 (.illegalEmptyList "ServerNames")
  (readNames bs.length none).run bs

/-- The type of a status by the online protocol. -/
def onlineStatus : Nat := 1

def readStatusRequest : Reader Unit := do
  if (← Reader.number 1 "CertificateStatusType") = onlineStatus then
    discard <| Reader.list (Reader.vector 2) (Reader.vector 2)
    discard <| Reader.vector 2
  else
    discard Reader.rest

/-- An extension that says all by being there. -/
def presence : Reader Unit :=
  Reader.finish "Empty"

/-- A list of numbers with two bytes each, behind a length of two bytes. -/
def readCodes (empty : Corruption) (name : String) : Reader (List Nat) :=
  Reader.list (Reader.filled 2 empty) (Reader.number 2 name)

/-- A list of numbers with one byte each, behind a length of one byte. -/
def readShortCodes (list name : String) : Reader (List Nat) :=
  Reader.list (Reader.filled 1 (.illegalEmptyList list)) (Reader.number 1 name)

def readGroups : Reader (List Nat) :=
  readCodes (.illegalEmptyList "NamedGroups") "NamedGroup"

def readSignatureAlgorithms : Reader (List Nat) :=
  readCodes .noSignatureSchemes "SignatureScheme"

def readPointFormats : Reader (List Nat) :=
  readShortCodes "ECPointFormats" "ECPointFormat"

def readCertificateTypes : Reader (List Nat) :=
  readShortCodes "CertificateTypes" "CertificateType"

def readCompressions : Reader (List Nat) :=
  Reader.list (Reader.filled 1 (.illegalEmptyList "CertificateCompressionAlgorithms"))
    (Reader.number 2 "CertificateCompressionAlgorithm")

def readProtocols : Reader (List Bytes) :=
  Reader.list (Reader.filled 2 (.illegalEmptyList "ProtocolNames"))
    (Reader.filled 1 .illegalEmptyValue)

/-- The one protocol that a server chooses. -/
def readProtocol : Reader Bytes := do
  let bs ← Reader.filled 2 (.illegalEmptyList "ProtocolNames")
  (Reader.filled 1 .illegalEmptyValue <* Reader.finish "SingleProtocolName").run bs

def readVersions : Reader (List Nat) :=
  Reader.list (Reader.filled 1 (.illegalEmptyList "ProtocolVersions"))
    (Reader.number 2 "ProtocolVersion")

def readPreSharedKeyModes : Reader (List Nat) :=
  readShortCodes "PskKeyExchangeModes" "PskKeyExchangeMode"

/-- How many keys are offered, and how many proofs that the client has them. -/
structure PreSharedKeys where
  identities : Nat
  binders : Nat
  deriving DecidableEq

def readPreSharedKeys : Reader PreSharedKeys := do
  let identities ← Reader.list (Reader.filled 2 (.illegalEmptyList "PskIdentities")) do
    discard <| Reader.filled 2 .illegalEmptyValue
    Reader.plain 4
  let binders ← Reader.list (Reader.filled 2 (.illegalEmptyList "PskBinders"))
    (Reader.filled 1 .illegalEmptyValue)
  return ⟨identities.length, binders.length⟩

/-- A public key for a group. -/
structure KeyShare where
  group : Nat
  key : Bytes
  deriving DecidableEq

def readKeyShare : Reader KeyShare := do
  let group ← Reader.number 2 "NamedGroup"
  let key ← Reader.filled 2 .illegalEmptyValue
  return ⟨group, key⟩

def readKeyShares : Reader (List KeyShare) :=
  Reader.list (Reader.vector 2) readKeyShare

def readAuthorities : Reader (List Bytes) :=
  Reader.list (Reader.vector 2) (Reader.filled 2 .illegalEmptyValue)

def readEncryptedHello : Reader Unit := do
  match ← Reader.number 1 "EchClientHelloType" with
  | 0 =>
    discard <| Reader.number 2 "HpkeKdf"
    discard <| Reader.number 2 "HpkeAead"
    discard <| Reader.plain 1
    discard <| Reader.vector 2
    discard <| Reader.filled 2 .illegalEmptyValue
  | 1 => return ()
  | _ => throw .invalidContentType

/-- How many tickets a client wants when a session is new, and when it goes on. -/
def readTicketCounts : Reader Unit := do
  discard <| Reader.plain 1
  discard <| Reader.plain 1

def readExtensionTypes : Reader (List Nat) :=
  Reader.list (Reader.filled 1 (.illegalEmptyList "ExtensionTypes"))
    (Reader.number 2 "ExtensionType")

/-! ### Keys for encrypted hellos -/

/-- The pairs of a key derivation and a cipher that go with a key. -/
def readSealings : Reader Unit := do
  discard <| Reader.list (Reader.filled 2 (.illegalEmptyList "HpkeSymmetricCipherSuites")) do
    discard <| Reader.number 2 "HpkeKdf"
    Reader.number 2 "HpkeAead"

/-- What a key is, under which name its server is known, and extensions. -/
def readConfiguration : Reader Unit := do
  discard <| Reader.plain 1
  discard <| Reader.number 2 "HpkeKem"
  discard <| Reader.filled 2 .illegalEmptyValue
  readSealings
  discard <| Reader.plain 1
  unless HostName.isName (← Reader.vector 1) do throw .serverName
  discard <| Reader.list (Reader.vector 2) do
    discard <| Reader.number 2 "ExtensionType"
    Reader.vector 2

/-- The version whose configurations are understood. -/
def configurationVersion : Nat := 0xfe0d

/-- Configurations of other versions can be anything. -/
def readConfigurations : Reader Unit := do
  discard <| Reader.list (Reader.vector 2) do
    let version ← Reader.number 2 "EchVersion"
    let content ← Reader.vector 2
    if version = configurationVersion then discard <| readConfiguration.run content

/-! ### Finding and writing -/

/-- The body of the extension with a number, as a value. -/
def find? {α : Type} (extensions : List Extension) (code : Nat) (read : Reader α) : Option α :=
  (extensions.find? (·.code == code)).bind fun e => (read.run e.body).toOption

def has (extensions : List Extension) (code : Nat) : Bool :=
  extensions.any (·.code == code)

def encode (e : Extension) : Bytes :=
  number 2 e.code ++ vector 2 e.body

/-- A block of extensions behind its length. -/
def encodeAll (extensions : List Extension) : Bytes :=
  vector 2 (extensions.flatMap encode)

end Extension

/-- A kind of block. -/
structure ExtensionBlock where
  /-- What has trailing data when an extension is longer than its form. -/
  name : String
  /-- The extensions that are understood, with the readers of their bodies. -/
  forms : List (Nat × Reader Unit)
  /-- What is wrong with an extension that is not understood, if anything is. -/
  unknown : Option Corruption := none
  /-- The extension that none may follow. -/
  last : Option Nat := none

namespace ExtensionBlock

/-- Reads one extension after those with the numbers `seen`. -/
def readOne (block : ExtensionBlock) (seen : List Nat) : Reader Extension := do
  let code ← Reader.number 2 "ExtensionType"
  let body ← Reader.vector 2
  match block.forms.lookup code with
  | some form =>
    if seen.contains code then throw (.duplicateExtension code)
    discard <| (form *> Reader.finish block.name).run body
  | none =>
    if let some refusal := block.unknown then throw refusal
    if seen.contains code then throw (.duplicateExtension code)
  return ⟨code, body⟩

/-- Reads all extensions, at most so many. -/
def readAll (block : ExtensionBlock) : Nat → List Nat → Reader (List Extension)
  | 0, _ => return []
  | left + 1, seen => do
    if ← Reader.isDone then return []
    let first ← block.readOne seen
    if block.last = some first.code then
      unless ← Reader.isDone do throw .preSharedKeyNotLast
    return first :: (← block.readAll left (first.code :: seen))

/-- A block behind its length. -/
def read (block : ExtensionBlock) : Reader (List Extension) := do
  let bs ← Reader.vector 2
  (block.readAll bs.length []).run bs

/-- A block that is left out when it is empty. -/
def readOptional (block : ExtensionBlock) : Reader (List Extension) := do
  if ← Reader.isDone then return []
  block.read

/-! ### Kinds -/

open Extension Reader in
/-- What a client may say in its hello. -/
def clientHello : ExtensionBlock where
  name := "ClientExtensions"
  forms :=
    [(serverName, check readServerName), (statusRequest, readStatusRequest),
     (groups, check readGroups), (pointFormats, check readPointFormats),
     (signatureAlgorithms, check readSignatureAlgorithms), (protocols, check readProtocols),
     (clientCertificateTypes, check readCertificateTypes),
     (serverCertificateTypes, check readCertificateTypes), (extendedMasterSecret, presence),
     (certificateCompression, check readCompressions), (sessionTicket, check rest),
     (preSharedKey, check readPreSharedKeys), (earlyData, presence),
     (supportedVersions, check readVersions), (cookie, check (filled 2 .illegalEmptyValue)),
     (preSharedKeyModes, check readPreSharedKeyModes), (authorities, check readAuthorities),
     (keyShare, check readKeyShares), (transportParameters, check rest),
     (ticketRequest, readTicketCounts), (renegotiation, check (Reader.vector 1)),
     (encryptedHello, readEncryptedHello), (encryptedHelloOuter, check readExtensionTypes)]
  last := some preSharedKey

open Extension Reader in
/-- What a server may answer. -/
def serverHello : ExtensionBlock where
  name := "ServerExtensions"
  forms :=
    [(pointFormats, check readPointFormats), (serverName, presence), (sessionTicket, presence),
     (renegotiation, check (Reader.vector 1)), (protocols, check readProtocol),
     (keyShare, check readKeyShare), (preSharedKey, check (plain 2)),
     (clientCertificateTypes, check (Reader.number 1 "CertificateType")),
     (serverCertificateTypes, check (Reader.number 1 "CertificateType")),
     (extendedMasterSecret, presence), (statusRequest, presence),
     (supportedVersions, check (Reader.number 2 "ProtocolVersion")),
     (transportParameters, check rest), (earlyData, presence),
     (ticketRequest, check (plain 1)), (encryptedHello, readConfigurations)]

open Extension Reader in
/-- What a server may say when it asks for another hello. -/
def retryRequest : ExtensionBlock where
  name := "HelloRetryRequestExtensions"
  forms :=
    [(keyShare, check (Reader.number 2 "NamedGroup")),
     (cookie, check (filled 2 .illegalEmptyValue)),
     (supportedVersions, check (Reader.number 2 "ProtocolVersion")), (encryptedHello, check rest)]
  unknown := some .unknownRetryExtension

/-- Content behind a length of three bytes, which is never empty. -/
def readLong : Reader Bytes :=
  Reader.filled 3 (.illegalEmptyList "PayloadU24")

/-- A status of a certificate. -/
def readStatus : Reader Unit := do
  if (← Reader.number 1 "CertificateStatusType") = Extension.onlineStatus then
    discard readLong
  else
    throw .certificateStatusType

/-- What may stand beside a certificate. -/
def certificate : ExtensionBlock where
  name := "CertificateExtensions"
  forms := [(Extension.statusRequest, readStatus)]
  unknown := some .unknownCertificateExtension

open Extension Reader in
/-- What a server may say when it asks for a certificate. -/
def certificateRequest : ExtensionBlock where
  name := "CertificateRequestExtensions"
  forms :=
    [(signatureAlgorithms, check readSignatureAlgorithms), (authorities, check readAuthorities),
     (certificateCompression, check readCompressions)]

/-- What may stand beside a session ticket. -/
def ticket : ExtensionBlock where
  name := "NewSessionTicketExtensions"
  forms := [(Extension.earlyData, Reader.check (Reader.plain 4))]

end ExtensionBlock

end RecordLayer.Wire
