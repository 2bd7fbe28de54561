import RecordLayer.Symbolic.Certificate
import RecordLayer.Symbolic.Party

/-!
# The symbolic client

A client offers its versions and suites, checks the server's chain and, when asked, shows its own
certificate. It is driven from outside: `Client.deliver` gives it bytes, `Client.flush` takes what
it has to send.

* What is written before the handshake is over is kept and sent at its end, each writing in records
  of its own.
* After a failure a client takes nothing more, but the alert it queued can still be flushed.
-/

namespace RecordLayer.Symbolic

open Wire

structure ClientSettings where
  /-- The certificates that the server's chain is checked against. -/
  trust : List Bytes
  /-- The client's own certificate. -/
  identity : Option Bytes
  versions : List TlsVersion
  suites : List CipherSuite
  /-- The host that the client wants to speak to. -/
  host : String
  deriving DecidableEq

/-- What a client keeps for itself. -/
structure ClientData where
  settings : ClientSettings
  /-- The random bytes of its hello. -/
  random : Bytes
  /-- Whether the server has asked for a certificate. -/
  requested : Bool := false
  /-- The random bytes of the server's hello. -/
  serverRandom : Bytes := []
  serverChain : List Bytes := []
  /-- The server's key of TLS 1.2, with its signature. -/
  serverKey : Option Form.KeyExchange := none
  /-- What was written and waits for the end of the handshake. -/
  unsent : List Bytes := []

abbrev Client : Type :=
  Party ClientData

namespace Client

/-! ### The offer -/

/-- The suites that are offered, in the usual order. -/
def suites (settings : ClientSettings) : List CipherSuite :=
  CipherSuite.standard.filter settings.suites.contains

/-- A version is offered only if an offered suite belongs to it. -/
def offers (settings : ClientSettings) (version : TlsVersion) : Bool :=
  settings.versions.contains version && (suites settings).any (·.version == version)

def versionCode : TlsVersion → Nat
  | .tls12 => version12
  | .tls13 => version13

/-- The extensions of a hello for any version. -/
def commonExtensions (settings : ClientSettings) : List Extension :=
  let versions := [TlsVersion.tls13, .tls12].filter (offers settings)
  [⟨Extension.supportedVersions,
      Wire.vector 1 (versions.flatMap fun v => Wire.number 2 (versionCode v))⟩,
   ⟨Extension.serverName,
      Wire.vector 2 (Wire.number 1 Extension.hostNameType ++
        Wire.vector 2 settings.host.toUTF8.toList)⟩,
   ⟨Extension.groups, Wire.vector 2 (Group.curves.flatMap fun g => Wire.number 2 g.code)⟩,
   ⟨Extension.signatureAlgorithms,
      Wire.vector 2 (Certificate.schemes.flatMap (Wire.number 2))⟩,
   ⟨Extension.statusRequest,
      Wire.number 1 Extension.onlineStatus ++ Wire.vector 2 [] ++ Wire.vector 2 []⟩,
   ⟨Extension.extendedMasterSecret, []⟩,
   ⟨Extension.pointFormats, Wire.vector 1 (Wire.number 1 uncompressedPoints)⟩]

def extensions12 : List Extension :=
  [⟨Extension.sessionTicket, []⟩]

/-- The group for which the first hello has a key. -/
def offeredGroup : Group := .x25519

def offeredKey : Bytes :=
  publicKey .client offeredGroup.keyLength

/-- A key may be mixed into that of an earlier session, if there was one. -/
def mixedKeys : Nat := 1

def extensions13 : List Extension :=
  [⟨Extension.keyShare,
      Wire.vector 2 (Wire.number 2 offeredGroup.code ++ Wire.vector 2 offeredKey)⟩,
   ⟨Extension.preSharedKeyModes, Wire.vector 1 (Wire.number 1 mixedKeys)⟩]

/-- The session that a client of TLS 1.3 makes up for the sake of old middleboxes. -/
def sessionId (settings : ClientSettings) (random : Bytes) : Bytes :=
  if offers settings .tls13 then derive "session" random maxSessionId else []

def hello (settings : ClientSettings) (random : Bytes) : ClientHello :=
  let has12 := offers settings .tls12
  let has13 := offers settings .tls13
  { legacyVersion := version12
    random := random
    sessionId := sessionId settings random
    suites := (suites settings).map (·.code) ++ if has12 then [renegotiationSuite] else []
    compressions := [nullCompression]
    extensions := commonExtensions settings ++ (if has12 then extensions12 else []) ++
      if has13 then extensions13 else [] }

/-- A client that has queued its hello; the number tells it from other clients. -/
def start (settings : ClientSettings) (number : Nat) : Client :=
  let random := helloRandom .client number
  let answer : Awaited := if offers settings .tls13 then .serverAnswer else .serverHello
  let idle : Client := { role := .client, data := { settings, random }, awaited := [answer] }
  idle.emitMessages [(hello settings random).encode]

/-! ### The handshake -/

/-- The client's certificates, empty if it has none. -/
def identityChain (c : Client) : List Bytes :=
  c.data.settings.identity.toList

/-- The answer to a request for a certificate. -/
def certificateMessages (c : Client) (version : TlsVersion) : List Message :=
  if c.data.requested then [Form.chain version (identityChain c)] else []

/-- The proof that the client has the key of the certificate it showed. -/
def proofMessages (c : Client) (handshake : Transcript) : List Message :=
  match c.data.requested, c.data.settings.identity.bind Certificate.ofDer? with
  | true, some identity =>
    [⟨.certificateVerify, Form.signature (identity.sign handshake.toBytes)⟩]
  | _, _ => []

/-- Sends what has waited for the end of the handshake. -/
def release (c : Client) : Client :=
  c.data.unsent.foldl (fun c plain => Party.emit c .applicationData plain)
    { c with data := { c.data with unsent := [] } }

/-- Checks the server's chain, and the signature of its key under some content. -/
def checkServer (c : Client) (content : Bytes) (signature : Form.Signature) : Option Fault :=
  let settings := c.data.settings
  match Certificate.verifyHost settings.trust settings.host c.data.serverChain with
  | .error fault => some (.certificate fault)
  | .ok server => server.checkSignature content signature

/-- A client has a key for the group that servers prefer, so a request for another key never answers
the client's own hello. -/
def handleRetry (hello : ServerHello) (c : Client) : Handled ClientData :=
  if hello.retryGroup? = some offeredGroup.code then
    (c, some (.misbehaved .retryWithOfferedGroup .illegalParameter))
  else
    (c, some (.misbehaved .retryWithWrongSession .illegalParameter))

/-- What is wrong with a server's choice. -/
def choiceFault? (settings : ClientSettings) (hello : ServerHello) : TlsVersion → Option Fault
  | .tls12 =>
    if offers settings .tls13 ∧ Choice.isMarked hello.random then
      some (.misbehaved .downgrade .illegalParameter)
    else none
  | .tls13 =>
    if hello.keyShare?.map (·.group) = some offeredGroup.code then none
    else some (.misbehaved .wrongGroupForKeyShare .illegalParameter)

/-- What follows a choice: in TLS 1.3 the rest is protected. -/
def accept (choice : Choice) (c : Client) : Client :=
  match choice.version with
  | .tls12 =>
    { c with
      awaited :=
        [.certificate, .serverKeyExchange, .serverHelloDone, .changeCipherSpec, .finished] }
  | .tls13 =>
    { c.emitChangeCipherSpec with
      keySource := c.transcript
      sending := some (choice.channel .client .handshake c.transcript)
      receiving := some (choice.channel .server .handshake c.transcript)
      awaited := [.encryptedExtensions, .certificate, .certificateVerify, .finished] }

/-- A server answers the extensions of the client's hello. It may say unasked that it knows of
secure renegotiation. -/
def isSolicited (c : Client) (e : Extension) : Bool :=
  e.code == Extension.renegotiation || (hello c.data.settings c.data.random).has e.code

/-- The server's choice has to be one of the versions and suites that were offered. -/
def handleChoice (hello : ServerHello) (c : Client) : Handled ClientData :=
  let settings := c.data.settings
  let version : TlsVersion := if hello.choosesVersion then .tls13 else .tls12
  if ¬offers settings version then
    (c, some (.incompatible .serverVersionDisabled .protocolVersion))
  else if ¬hello.extensions.all (isSolicited c) then
    (c, some (.misbehaved .unsolicitedExtension .unsupportedExtension))
  else
    let c : Client :=
      { c with version := some version, data := { c.data with serverRandom := hello.random } }
    match (suites settings).find? (·.code == hello.suite) with
    | none => (c, some (.misbehaved .unofferedSuite .handshakeFailure))
    | some suite =>
      let c : Client := { c with choice := some ⟨version, suite⟩ }
      match choiceFault? settings hello version with
      | some fault => (c, some fault)
      | none => (accept ⟨version, suite⟩ c, none)

def handleHello (m : Message) (c : Client) : Handled ClientData :=
  match ServerHello.read.run m.body with
  | .error corruption => (c, some (.corrupt corruption))
  | .ok hello => if hello.isRetry then handleRetry hello c else handleChoice hello c

def handleChain (m : Message) (c : Client) : Handled ClientData :=
  match (Form.readChain (c.version.getD .tls12)).run m.body with
  | .error corruption => (c, some (.corrupt corruption))
  | .ok chain => ({ c.proceed with data := { c.data with serverChain := chain } }, none)

def handleKey (m : Message) (c : Client) : Handled ClientData :=
  match Form.readKeyExchange.run m.body with
  | .error corruption => (c, some (.corrupt corruption))
  | .ok key => ({ c.proceed with data := { c.data with serverKey := some key } }, none)

/-- The client's part in TLS 1.2, every message in a record of its own. -/
def answer12 (choice : Choice) (c : Client) : Client :=
  let keyed := c.emitEach (certificateMessages c .tls12 ++ [Form.clientKey offeredKey])
  let proven := keyed.emitEach (proofMessages c keyed.transcript)
  let switched : Client := { proven.emitChangeCipherSpec with
    keySource := keyed.transcript
    sending := some (choice.channel .client .application keyed.transcript) }
  switched.emitEach [choice.finished .client switched.transcript]

/-- The end of the server's first part in TLS 1.2. -/
def handleHelloDone (c : Client) : Handled ClientData :=
  match c.choice, c.data.serverKey with
  | some choice, some key =>
    let content := c.data.random ++ c.data.serverRandom ++ Form.parameters key.group key.key
    match checkServer c content key.signature with
    | some fault => (c, some fault)
    | none => (answer12 choice c.proceed, none)
  | _, _ => (c, none)

/-- The proof that the server has the key of its certificate, in TLS 1.3. -/
def handleProof (a : Arrival) (c : Client) : Handled ClientData :=
  match Form.readSignature.run a.message.body with
  | .error corruption => (c, some (.corrupt corruption))
  | .ok signature =>
    match checkServer c a.before.toBytes signature with
    | some fault => (c, some fault)
    | none => (c.proceed, none)

/-- The client's part in TLS 1.3, all in one, before the keys change. -/
def answer13 (choice : Choice) (c : Client) : Client :=
  let shown := certificateMessages c .tls13
  let proven := shown ++ proofMessages c (shown.foldl .add c.transcript)
  { c.emitMessages (proven ++ [choice.finished .client (proven.foldl .add c.transcript)]) with
    sending := some (choice.channel .client .application c.keySource)
    receiving := some (choice.channel .server .application c.keySource) }

/-- The server has to have seen the same handshake. -/
def handleFinished (a : Arrival) (c : Client) : Handled ClientData :=
  match c.choice with
  | none => (c, none)
  | some choice =>
    if a.message = choice.finished .server a.before then
      match choice.version with
      | .tls12 => (release c.proceed, none)
      | .tls13 => (release (answer13 choice c.proceed), none)
    else (c, some ⟨.decryptFailed, some .decryptError⟩)

def handleAwaited (awaited : Awaited) (a : Arrival) (c : Client) : Handled ClientData :=
  match awaited with
  | .serverHello | .serverAnswer => handleHello a.message c
  | .certificate => handleChain a.message c
  | .serverKeyExchange => handleKey a.message c
  | .serverHelloDone => handleHelloDone c
  | .certificateVerify => handleProof a c
  | .finished => handleFinished a c
  | _ => (c.proceed, none)

/-- The request for a certificate comes before the server's certificate or after its key. -/
def handleAside? (m : Message) (c : Client) : Option Client :=
  let expected := c.awaited.head? = some .serverHelloDone ∨ c.awaited.head? = some .certificate
  if m.type = .certificateRequest ∧ expected then
    some { c with data := { c.data with requested := true } }
  else
    none

/-- Session tickets are not kept. -/
def handleLater (m : Message) (c : Client) : Handled ClientData :=
  if m.type = .newSessionTicket then (c, none) else c.unexpected .handshake

def handlers : Handlers ClientData where
  awaited := handleAwaited
  aside? := handleAside?
  later := handleLater

/-! ### Operations -/

/-- The number of bytes that wait for the end of the handshake. -/
def unsentLength (c : Client) : Nat :=
  c.data.unsent.flatten.length

/-- Takes plaintext to send and counts it. -/
def write (c : Client) (plain : Bytes) : Client × Nat :=
  if c.failure.isSome then (c, 0)
  else if c.isHandshaking then
    let kept := plain.take (Party.outputLimit - unsentLength c)
    ({ c with data := { c.data with unsent := c.data.unsent ++ [kept] } }, kept.length)
  else
    Party.write c plain

/-- Announces the end of the client's data, once. -/
def close (c : Client) : Client :=
  if c.closeSent then c
  else { c.emitAlert Party.warningLevel .closeNotify with closeSent := true }

/-- Takes all that the client has to send. -/
def flush (c : Client) : Client × Bytes :=
  Party.flush c c.outgoing.length

/-- Gives bytes to the client and takes the plaintext in them. -/
def deliver (c : Client) (bs : Bytes) : Client × Except ProtocolError Bytes :=
  if c.failure.isSome then
    (c, .ok [])
  else
    let c := Party.process handlers (c.take bs)
    match c.failure with
    | some e => (c, .error e)
    | none => ({ c with plaintext := [] }, .ok c.plaintext)

/-- What a client shows of its session. -/
structure Summary where
  handshaking : Bool
  version : Option TlsVersion
  suite : Option CipherSuite
  deriving DecidableEq

def summary (c : Client) : Summary :=
  ⟨c.isHandshaking, c.version, c.choice.map (·.suite)⟩

end Client

end RecordLayer.Symbolic
