import RecordLayer.Symbolic.Channel
import RecordLayer.Wire.Group
import RecordLayer.Wire.Hello

/-!
# Choices

What a server chooses from an offer: a version and a suite. The choice stands in the server's hello,
and it determines the channels of both sides.
-/

namespace RecordLayer.Symbolic

open Wire

structure Choice where
  version : TlsVersion
  suite : CipherSuite
  deriving DecidableEq

namespace Choice

/-- The server's key for a group. -/
def serverKey (group : Group) : Bytes :=
  publicKey .server group.answerLength

/-- A server says that it has seen the name it was asked for. -/
def acknowledgedName (offer : ClientHello) : List Extension :=
  match offer.serverName? with
  | some (.host _) => [⟨Extension.serverName, []⟩]
  | _ => []

/-- A client that names types of certificates is told that they are signed. -/
def acknowledgedType (offer : ClientHello) (code : Nat) : List Extension :=
  if (offer.certificateTypes code).contains signedCertificate then
    [⟨code, number 1 signedCertificate⟩]
  else []

/-- What a server answers in any version. -/
def acknowledged (offer : ClientHello) : List Extension :=
  acknowledgedName offer ++ acknowledgedType offer Extension.clientCertificateTypes ++
    acknowledgedType offer Extension.serverCertificateTypes

/-- The extensions of a server's hello. In TLS 1.2 they answer those of the client; in TLS 1.3 they
say the version and give the key. -/
def extensions (offer : ClientHello) (group : Group) : TlsVersion → List Extension
  | .tls12 =>
    let secret := Extension.extendedMasterSecret
    acknowledged offer ++ (if offer.has secret then [⟨secret, []⟩] else []) ++
      if offer.isSecure then [⟨Extension.renegotiation, vector 1 []⟩] else []
  | .tls13 =>
    [⟨Extension.keyShare, number 2 group.code ++ vector 2 (serverKey group)⟩,
     ⟨Extension.supportedVersions, number 2 version13⟩]

/-- In TLS 1.3 a server repeats the client's session. In TLS 1.2 it gives a new one, unless the
client came with a ticket. -/
def sessionId (offer : ClientHello) : TlsVersion → Bytes
  | .tls12 => if offer.ticket.isEmpty then derive "session" offer.random maxSessionId else []
  | .tls13 => offer.sessionId

/-- The end of the random bytes by which a server that speaks TLS 1.3 marks a hello of TLS 1.2. -/
def downgradeMark : Bytes :=
  "DOWNGRD".toUTF8.toList ++ [1]

def isMarked (random : Bytes) : Bool :=
  random.drop (random.length - downgradeMark.length) == downgradeMark

/-- The random bytes of the hello of the server with a number. -/
def random (number : Nat) (marked : Bool) : Bytes :=
  let bytes := helloRandom .server number
  if marked then bytes.take (bytes.length - downgradeMark.length) ++ downgradeMark else bytes

/-- The hello that tells the client. -/
def hello (c : Choice) (offer : ClientHello) (random : Bytes) (group : Group) : ServerHello where
  random := random
  sessionId := sessionId offer c.version
  suite := c.suite.code
  extensions := extensions offer group c.version

/-- The request for a hello with a key for the group. -/
def retry (c : Choice) (offer : ClientHello) (group : Group) : ServerHello where
  random := ServerHello.retryRandom
  sessionId := offer.sessionId
  suite := c.suite.code
  extensions :=
    [⟨Extension.keyShare, number 2 group.code⟩, ⟨Extension.supportedVersions, number 2 version13⟩]

/-- The channel of a sender, with keys from a handshake. -/
def channel (c : Choice) (sender : Role) (epoch : Epoch) (source : Transcript) : Channel where
  sender := sender
  epoch := epoch
  version := c.version
  bulk := c.suite.bulk
  source := source

/-- The length of the proofs at the end of the handshake. -/
def proofLength (c : Choice) : Nat :=
  match c.version with
  | .tls12 => 12
  | .tls13 => c.suite.hash.length

/-- The last message of a side's handshake. -/
def finished (c : Choice) (sender : Role) (t : Transcript) : Message :=
  ⟨.finished, t.verifyData sender c.proofLength⟩

end Choice

end RecordLayer.Symbolic
