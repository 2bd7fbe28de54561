import RecordLayer.Context
import RecordLayer.Symbolic.Negotiation
import RecordLayer.Symbolic.Party
import RecordLayer.Tls.Engine

/-!
# The symbolic server

A server answers a client's hello with a version and a suite, its certificate and, if the
configuration says so, a request for the client's. `Server.provider` offers it as a TLS
implementation.

* `Server.handleHello` settles everything with the first message, or asks for another one.
* `Server.handlers` are the later steps: the client's certificate and key, the proof that they
  belong together, and the proof that both sides saw the same handshake.
* `Server.feed` takes bytes as long as there is room for them.
-/

namespace RecordLayer.Symbolic

open Wire

/-- What a server keeps of the hello after which it asked for another one. -/
structure Retried where
  /-- The suite that was chosen. -/
  suite : CipherSuite
  /-- Whether keys of earlier sessions were offered. -/
  hadKeys : Bool
  deriving DecidableEq

/-- What a server keeps for itself. -/
structure ServerData where
  config : ServerConfig
  /-- What tells the server from others. -/
  number : Nat
  /-- The host that the client asked for. -/
  host : Option String := none
  /-- The first hello, if the client was asked for another one. -/
  retried : Option Retried := none
  /-- The group that the keys are exchanged in. -/
  group : Group := .x25519
  /-- The client's chain, as long as nothing proves that the client has the key. -/
  presented : List Bytes := []
  peer : Option (List Bytes) := none

abbrev Server : Type :=
  Party ServerData

namespace Server

/-- A server that waits for its first hello. -/
def fresh (number : Nat) (config : ServerConfig) : Server :=
  { role := .server, data := { config, number }, awaited := [.clientHello] }

/-- The certificate of the server's key; configurations are only built with keys. -/
def identity (config : ServerConfig) : Certificate :=
  (Certificate.ofDer? config.key).getD .root

def asksForCertificate (config : ServerConfig) : Bool :=
  config.clientAuth != .none

/-- The request for a client certificate, if the configuration makes one. -/
def request (config : ServerConfig) (version : TlsVersion) : List Message :=
  if asksForCertificate config then [Form.request version Certificate.schemes] else []

/-- The step of the client's certificate, if the configuration asks for one. -/
def awaitedCertificate (config : ServerConfig) : List Awaited :=
  if asksForCertificate config then [.certificate] else []

/-! ### The answer to a hello -/

/-- What a server does until a fault stops it; what it did before the fault stays done. -/
abbrev Action : Type → Type :=
  ExceptT Fault (StateM Server)

def Action.run (a : Action Unit) (s : Server) : Handled ServerData :=
  match StateT.run (ExceptT.run a) s with
  | (.ok (), s) => (s, none)
  | (.error fault, s) => (s, some fault)

/-- The host has to stay the same when the client is asked for another hello. -/
def settleHost (host : Option String) : Action Unit := do
  let data := (← get).data
  if data.retried.isSome then
    unless host = data.host do throw (.silent (.peerMisbehaved .hostNameDiffersOnRetry))
  else
    modify fun s => { s with data := { s.data with host } }

/-- The suite has to stay the same when the client is asked for another hello. -/
def settleSuite (suite : CipherSuite) : Action Unit := do
  if let some first := (← get).data.retried then
    unless suite = first.suite do
      throw (.misbehaved .cipherSuiteDiffersOnRetry .illegalParameter)

/-- The random bytes of a hello; one of TLS 1.2 is marked if the server speaks TLS 1.3. -/
def random (s : Server) (version : TlsVersion) : Bytes :=
  Choice.random s.data.number (version == .tls12 && Negotiation.speaks s.data.config .tls13)

/-- The server's key, signed together with the random bytes of both sides. -/
def keyExchange (s : Server) (hello : ClientHello) (group : Group) : Message :=
  let key := Choice.serverKey group
  let content := hello.random ++ random s .tls12 ++ Form.parameters group.code key
  Form.keyExchange ⟨group.code, key, (identity s.data.config).sign content⟩

/-- The whole answer in TLS 1.2. -/
def answer12 (hello : ClientHello) (schemes : List Nat) (choice : Choice) (group : Group) :
    Action Unit := do
  let config := (← get).data.config
  Negotiation.checkPoints hello
  Negotiation.checkSchemes12 schemes
  Negotiation.checkCertificateTypes hello
  Negotiation.checkKey12 (identity config).key schemes
  modify fun s =>
    let greeting := (choice.hello hello (random s .tls12) group).encode
    { s.emitMessages
        ([greeting, Form.chain .tls12 config.chain, keyExchange s hello group] ++
          request config .tls12 ++ [⟨.serverHelloDone, []⟩]) with
      choice := some choice
      data := { s.data with group }
      awaited := awaitedCertificate config ++ [.clientKeyExchange, .changeCipherSpec, .finished] }

/-- Asks for a hello with a key for the group. -/
def retry (hello : ClientHello) (choice : Choice) (group : Group) : Action Unit :=
  modify fun s =>
    let asked := (s.emitMessages [(choice.retry hello group).encode]).emitChangeCipherSpec
    { asked with
      data := { s.data with retried := some ⟨choice.suite, Negotiation.offersKeys hello⟩ }
      earlyLeft := Negotiation.refusedEarlyData hello }

/-- The server's hello in TLS 1.3, after which it uses its keys. -/
def open13 (hello : ClientHello) (choice : Choice) (group : Group) : Action Unit :=
  modify fun s =>
    let greeted := s.emitMessages [(choice.hello hello (random s .tls13) group).encode]
    let opening := if s.data.retried.isSome then greeted else greeted.emitChangeCipherSpec
    { opening with
      choice := some choice
      keySource := greeted.transcript
      sending := some (choice.channel .server .handshake greeted.transcript) }

/-- The signature under the handshake so far. -/
def proof (c : Certificate) (handshake : Transcript) : Message :=
  ⟨.certificateVerify, Form.signature (c.sign handshake.toBytes)⟩

/-- The rest of the answer in TLS 1.3, all in one. -/
def complete13 (hello : ClientHello) (choice : Choice) : Action Unit :=
  modify fun s =>
    let config := s.data.config
    let answers := Extension.encodeAll (Choice.acknowledged hello)
    let shown : List Message :=
      ⟨.encryptedExtensions, answers⟩ :: request config .tls13 ++
        [Form.chain .tls13 config.chain]
    let proven := shown ++ [proof (identity config) (shown.foldl .add s.transcript)]
    let done := proven ++ [choice.finished .server (proven.foldl .add s.transcript)]
    { s.emitMessages done with
      sending := some (choice.channel .server .application s.keySource)
      receiving := some (choice.channel .client .handshake s.keySource)
      earlyLeft := Negotiation.refusedEarlyData hello
      awaited := awaitedCertificate config ++ [.finished] }

/-- The whole answer in TLS 1.3. -/
def answer13 (hello : ClientHello) (schemes : List Nat) (choice : Choice) (group : Group) :
    Action Unit := do
  let shares ← Negotiation.keyShares hello
  let first := (← get).data.retried
  Negotiation.checkEarlyData first.isSome hello
  Negotiation.checkKeptKeys (first.any (·.hadKeys)) hello
  match ← Negotiation.shareFor first.isSome group shares with
  | none => retry hello choice group
  | some key =>
    Negotiation.checkPreSharedKeys hello
    Negotiation.checkShare group key
    open13 hello choice group
    Negotiation.checkCertificateTypes hello
    Negotiation.checkKey13 (identity (← get).data.config).key schemes
    complete13 hello choice

def readHello (m : Message) : Except Fault ClientHello :=
  match ClientHello.read.run m.body with
  | .ok hello => .ok hello
  | .error corruption => .error (.corrupt corruption)

def handleHello (m : Message) : Action Unit := do
  let hello ← readHello m
  Negotiation.checkOffer hello (← get).joined
  settleHost (← Negotiation.host hello)
  let schemes ← Negotiation.schemes hello
  let data := (← get).data
  let version ← Negotiation.version data.config data.retried.isSome hello
  modify fun s => { s with version := some version }
  let group ← Negotiation.group data.config version hello
  let suite ← Negotiation.suite data.config version hello
  settleSuite suite
  match version with
  | .tls12 => answer12 hello schemes ⟨version, suite⟩ group
  | .tls13 => answer13 hello schemes ⟨version, suite⟩ group

/-! ### The later steps -/

/-- A client that shows a certificate has to prove that it has the key, in TLS 1.2 after the
exchange of keys. -/
def awaitProof (s : Server) : Server :=
  let rest := s.awaited.tail
  { s with
    awaited :=
      match s.version with
      | some .tls12 => rest.take 1 ++ .certificateVerify :: rest.drop 1
      | _ => .certificateVerify :: rest }

/-- A client without a certificate is let in if none is required. -/
def handleCertificate (m : Message) (s : Server) : Handled ServerData :=
  match (Form.readChain (s.version.getD .tls12)).run m.body with
  | .error corruption => (s, some (.corrupt corruption))
  | .ok [] =>
    if s.data.config.clientAuth = .require then
      (s, some ⟨.noCertificatesPresented, some .certificateRequired⟩)
    else
      (s.proceed, none)
  | .ok chain =>
    match Certificate.verify s.data.config.anchors chain with
    | .error fault => (s, some (.certificate fault))
    | .ok _ => ({ awaitProof s with data := { s.data with presented := chain } }, none)

/-- The client's key, and whether it is all that the message holds. -/
def readKey (m : Message) : Except Corruption (Bytes × Bool) :=
  Reader.run (do return (← Form.readClientKey, ← Reader.isDone)) m.body

/-- The keys of TLS 1.2 are made from the handshake up to here. -/
def handleKey (m : Message) (s : Server) : Handled ServerData :=
  match readKey m with
  | .error corruption => (s, some (.silent (.invalidMessage corruption)))
  | .ok (key, whole) =>
    if ¬whole then (s, some (.corrupt .keyExchangeParameters))
    else if ¬s.data.group.isPublicKey key then
      (s, some (.misbehaved .invalidKeyShare .illegalParameter))
    else ({ s.proceed with keySource := s.transcript }, none)

/-- The client's signature has to be under all of the handshake before it. -/
def handleProof (a : Arrival) (s : Server) : Handled ServerData :=
  match Form.readSignature.run a.message.body, s.data.presented.head?.bind Certificate.ofDer? with
  | .ok signature, some c =>
    match c.checkSignature a.before.toBytes signature with
    | some fault => (s, some fault)
    | none => ({ s.proceed with data := { s.data with peer := some s.data.presented } }, none)
  | .error corruption, _ => (s, some (.corrupt corruption))
  | .ok _, none => (s, some (.certificate .badEncoding))

/-- The number of session tickets for a client of TLS 1.3. -/
def ticketCount : Nat := 2

/-- The length of a ticket, and of the number that tells it from others. -/
def ticketLength : Nat := 32

def tickets : List Message :=
  (List.range ticketCount).map fun i =>
    Form.ticket (derive "nonce" (number 1 i) ticketLength)
      (derive "ticket" (number 1 i) ticketLength)

/-- The end of the handshake. -/
def finish (choice : Choice) (s : Server) : Server :=
  match choice.version with
  | .tls12 =>
    let switched : Server := { s.emitChangeCipherSpec with
      sending := some (choice.channel .server .application s.keySource) }
    switched.emitMessages [choice.finished .server s.transcript]
  | .tls13 =>
    ({ s with receiving := some (choice.channel .client .application s.keySource) } :
      Server).emitMessages tickets

/-- The client has to have seen the same handshake. -/
def handleFinished (a : Arrival) (s : Server) : Handled ServerData :=
  match s.choice with
  | none => (s, none)
  | some choice =>
    if a.message = choice.finished .client a.before then (finish choice s.proceed, none)
    else (s, some ⟨.decryptFailed, some .decryptError⟩)

def handleAwaited (awaited : Awaited) (a : Arrival) (s : Server) : Handled ServerData :=
  match awaited with
  | .clientHello => (handleHello a.message).run s
  | .certificate => handleCertificate a.message s
  | .clientKeyExchange => handleKey a.message s
  | .certificateVerify => handleProof a s
  | .finished => handleFinished a s
  | _ => (s.proceed, none)

/-- Nothing is agreed upon anew after the handshake. -/
def handlers : Handlers ServerData where
  awaited := handleAwaited
  aside? _ _ := none
  later _ s := s.unexpected .handshake

/-! ### The server as a TLS implementation -/

/-- The room for input: more than a record only when a handshake message spans several. -/
def room (s : Server) : Nat :=
  if s.joined.isEmpty then Record.maxLength else Message.maxBody

/-- Takes what there is room for. -/
def feed (s : Server) (bs : Bytes) : Server × Except String Nat :=
  let used := s.held + s.incoming.length
  if room s ≤ used then (s, .error "message buffer full")
  else
    let taken := bs.take (room s - used)
    (s.take taken, .ok taken.length)

def process (s : Server) : Server × Except ProtocolError Tls.Progress :=
  let s := Party.process handlers s
  (s, match s.failure with
    | some e => .error e
    | none => .ok ⟨s.plaintext.length, s.peerClosed⟩)

def readPlaintext (s : Server) (room : Nat) : Server × Tls.PlaintextRead :=
  if s.plaintext.isEmpty then
    (s, if s.peerClosed then .bytes [] else .wouldBlock)
  else
    ({ s with plaintext := s.plaintext.drop room }, .bytes (s.plaintext.take room))

def writePlaintext (s : Server) (plain : Bytes) : Server × Except String Nat :=
  match s.failure with
  | some e => (s, .error e.message)
  | none =>
    let (s, taken) := s.write plain
    (s, .ok taken)

def flush (s : Server) (room : Nat) : Server × Except String Bytes :=
  let (s, moved) := Party.flush s room
  (s, .ok moved)

def provider : Tls.Provider Server where
  wantsWrite s := !s.outgoing.isEmpty
  isHandshaking := Party.isHandshaking
  feed := feed
  process := process
  readPlaintext := readPlaintext
  writePlaintext := writePlaintext
  flush := flush
  peerCertificates s := s.data.peer

/-- The symbolic server as an engine. -/
def engine : Engine (Tls.State Server) :=
  Tls.engine provider

/-- The environment in which contexts start symbolic servers. -/
def environment : Environment (Tls.State Server) where
  library := .standard
  flag := none
  rules := Certificate.rules
  connect number config := .ok { session := fresh number config }

end Server

end RecordLayer.Symbolic
