import RecordLayer.Version
import RecordLayer.Wire.Hello

/-!
# Forms of handshake messages

The body of a handshake message has the form that its type asks for; three types have one form in
TLS 1.2 and another in TLS 1.3. A message is checked against its form before anything is made of it,
whether it was expected or not.

* `Form.check` accepts a message or says how it is malformed;
* `Form.readChain` and `Form.chain` read and write lists of certificates, `Form.readSignature` and
  `Form.signature` signatures, `Form.readKeyExchange` and `Form.keyExchange` the server's key;
* `Form.request` and `Form.ticket` write two more messages.
-/

namespace RecordLayer.Wire.Form

/-! ### Certificates -/

/-- The longest list of certificates that is taken. -/
def maxChain : Nat := 65536

def readCertificates {α : Type} (item : Reader α) : Reader (List α) :=
  Reader.list (Reader.limited 3 maxChain .certificatePayloadTooLarge) item

/-- A certificate of TLS 1.3 stands beside its extensions. -/
def readEntry : Reader Bytes := do
  let certificate ← Reader.vector 3
  discard ExtensionBlock.certificate.read
  return certificate

/-- The certificates of a message. -/
def readChain : TlsVersion → Reader (List Bytes)
  | .tls12 => readCertificates (Reader.vector 3)
  | .tls13 => do
    discard <| Reader.vector 1
    readCertificates readEntry

/-- The message that shows certificates. -/
def chain (version : TlsVersion) (certificates : List Bytes) : Message :=
  ⟨.certificate,
    match version with
    | .tls12 => vector 3 (certificates.flatMap (vector 3))
    | .tls13 =>
      vector 1 [] ++
        vector 3 (certificates.flatMap fun c => vector 3 c ++ Extension.encodeAll [])⟩

/-! ### Signatures -/

structure Signature where
  scheme : Nat
  bytes : Bytes
  deriving DecidableEq

def readSignature : Reader Signature := do
  let scheme ← Reader.number 2 "SignatureScheme"
  return ⟨scheme, ← Reader.vector 2⟩

def signature (s : Signature) : Bytes :=
  number 2 s.scheme ++ vector 2 s.bytes

/-! ### Keys -/

/-- What a server says in TLS 1.2 about its key. -/
structure KeyExchange where
  group : Nat
  key : Bytes
  signature : Signature
  deriving DecidableEq

/-- Curves are given by their registered numbers. -/
def namedCurve : Nat := 3

/-- The part of a key exchange that is signed. -/
def parameters (group : Nat) (key : Bytes) : Bytes :=
  number 1 namedCurve ++ number 2 group ++ vector 1 key

def readKeyExchange : Reader KeyExchange := do
  discard <| Reader.plain 1
  let group ← Reader.number 2 "NamedGroup"
  let key ← Reader.filled 1 .illegalEmptyValue
  return ⟨group, key, ← readSignature⟩

def keyExchange (k : KeyExchange) : Message :=
  ⟨.serverKeyExchange, parameters k.group k.key ++ signature k.signature⟩

/-- A client's key. -/
def readClientKey : Reader Bytes :=
  Reader.filled 1 .illegalEmptyValue

def clientKey (key : Bytes) : Message :=
  ⟨.clientKeyExchange, vector 1 key⟩

/-! ### Requests and tickets -/

/-- The kinds of certificates that are asked for: with keys for RSA, and over elliptic curves. -/
def certificateKinds : List Nat := [1, 64]

/-- The message that asks for a certificate with a key for one of the schemes. -/
def request (version : TlsVersion) (schemes : List Nat) : Message :=
  let list := vector 2 (schemes.flatMap (number 2))
  ⟨.certificateRequest,
    match version with
    | .tls12 => vector 1 (certificateKinds.flatMap (number 1)) ++ list ++ vector 2 []
    | .tls13 => vector 1 [] ++ Extension.encodeAll [⟨Extension.signatureAlgorithms, list⟩]⟩

/-- The lifetime of a ticket in seconds. -/
def ticketLifetime : Nat := 86400

/-- The message that gives the client of TLS 1.3 a ticket. -/
def ticket (nonce content : Bytes) : Message :=
  ⟨.newSessionTicket,
    number 4 ticketLifetime ++ number 4 0 ++ vector 1 nonce ++ vector 2 content ++
      Extension.encodeAll []⟩

/-! ### The other messages -/

def readRequest : TlsVersion → Reader Unit
  | .tls12 => do
    discard <| Extension.readShortCodes "ClientCertificateTypes" "ClientCertificateType"
    discard Extension.readSignatureAlgorithms
    discard Extension.readAuthorities
  | .tls13 => do
    discard <| Reader.vector 1
    discard ExtensionBlock.certificateRequest.read

def readTicket : TlsVersion → Reader Unit
  | .tls12 => do
    discard <| Reader.plain 4
    discard <| Reader.vector 2
  | .tls13 => do
    discard <| Reader.plain 4
    discard <| Reader.plain 4
    discard <| Reader.vector 1
    discard <| Reader.filled 2 .emptyTicket
    discard ExtensionBlock.ticket.read

def readCompressedChain : Reader Unit := do
  discard <| Reader.number 2 "CertificateCompressionAlgorithm"
  discard <| Reader.plain 3
  discard ExtensionBlock.readLong

/-- The reader of a type's bodies; a body of any other type can be anything. -/
def reader (version : TlsVersion) (type : HandshakeType) : Reader Unit :=
  if type = .clientHello then Reader.check ClientHello.read
  else if type = .serverHello then Reader.check ServerHello.read
  else if type = .certificate then Reader.check (readChain version)
  else if type = .certificateRequest then readRequest version
  else if type = .newSessionTicket then readTicket version
  else if type = .certificateVerify then Reader.check readSignature
  else if type = .encryptedExtensions then Reader.check ExtensionBlock.serverHello.read
  else if type = .serverHelloDone then Reader.finish "ServerHelloDone"
  else if type = .endOfEarlyData then Reader.finish "EndOfEarlyData"
  else if type = .keyUpdate then Reader.check (Reader.number 1 "KeyUpdateRequest")
  else if type = .certificateStatus then ExtensionBlock.readStatus
  else if type = .compressedCertificate then readCompressedChain
  else if type = .messageHash then throw (.unexpectedMessage "MessageHash")
  else if type = .helloRetryRequest then throw (.unexpectedMessage "HelloRetryRequest")
  else Reader.check Reader.rest

/-- What a message is: a server's hello can also be the request for another hello. -/
def typeOf (m : Message) : HandshakeType :=
  if m.type = .serverHello then
    match ServerHello.read.run m.body with
    | .ok hello => if hello.isRetry then .helloRetryRequest else m.type
    | .error _ => m.type
  else m.type

/-- Checks a message against the form that its type has in a version. -/
def check (version : TlsVersion) (m : Message) : Except Corruption Unit :=
  (reader version m.type *> Reader.finish "HandshakeMessagePayload").run m.body

/-- Whether a type has a form of its own in each version. -/
def dependsOnVersion (type : HandshakeType) : Bool :=
  type == .certificate || type == .certificateRequest || type == .newSessionTicket

end RecordLayer.Wire.Form
