import RecordLayer.Symbolic.Choice
import RecordLayer.Symbolic.Fault
import RecordLayer.Wire.Form

/-!
# Parties

What client and server have in common: they take bytes, open records, put handshake messages
together, answer alerts, and queue output. A party waits for a list of steps, one after the other;
when nothing is awaited the handshake is over. How a handshake message is handled is left to
`Handlers`.

* `Party.process` handles all whole records that were taken. After a failure it only repeats the
  error.
* `Party.passOver?` and `Party.refuse` pass over early data, which is never accepted, up to a limit.
* `Party.write` protects plaintext and `Party.flush` moves queued output.
-/

namespace RecordLayer.Symbolic

open Wire

/-- A step of a handshake that a party waits for. -/
inductive Awaited where
  | clientHello
  | serverHello
  /-- The server's hello, or its request for another hello. -/
  | serverAnswer
  | encryptedExtensions
  | certificate
  | serverKeyExchange
  | serverHelloDone
  | clientKeyExchange
  | certificateVerify
  | changeCipherSpec
  | finished
  deriving DecidableEq

/-- The handshake messages that make the step; none if it is no handshake message. -/
def Awaited.messages : Awaited → List HandshakeType
  | clientHello => [.clientHello]
  | serverHello => [.serverHello]
  | serverAnswer => [.serverHello, .helloRetryRequest]
  | encryptedExtensions => [.encryptedExtensions]
  | certificate => [.certificate]
  | serverKeyExchange => [.serverKeyExchange]
  | serverHelloDone => [.serverHelloDone]
  | clientKeyExchange => [.clientKeyExchange]
  | certificateVerify => [.certificateVerify]
  | changeCipherSpec => []
  | finished => [.finished]

/-- One end of a session; `δ` is what a role keeps for itself. -/
structure Party (δ : Type) where
  role : Role
  data : δ
  awaited : List Awaited
  choice : Option Choice := none
  version : Option TlsVersion := none
  sending : Option Channel := none
  receiving : Option Channel := none
  /-- The handshake so far. -/
  transcript : Transcript := .empty
  /-- The part of the handshake that the keys are made from. -/
  keySource : Transcript := .empty
  /-- Bytes taken and not handled yet. -/
  incoming : Bytes := []
  /-- Handshake messages that are not handled yet, the last of them perhaps only in part. -/
  joined : Bytes := []
  /-- The version whose form the joined messages have, by the record that they begin in. -/
  form : TlsVersion := .tls12
  /-- The length of the records that `joined` came in. -/
  held : Nat := 0
  outgoing : Bytes := []
  plaintext : Bytes := []
  peerClosed : Bool := false
  /-- Whether the peer was told that nothing more comes. -/
  closeSent : Bool := false
  /-- Whether a protected record of the peer was opened. -/
  opened : Bool := false
  warnings : Nat := 0
  compatibilityRecords : Nat := 0
  /-- The records without content since the last one with any. -/
  emptyRecords : Nat := 0
  /-- How much refused early data may still come, open or in records that cannot be opened. -/
  earlyLeft : Option Nat := none
  failure : Option ProtocolError := none

/-- What handling something comes to: the party, and the fault that ends the session. -/
abbrev Handled (δ : Type) : Type :=
  Party δ × Option Fault

/-- A handshake message, and the handshake before it. -/
structure Arrival where
  message : Message
  before : Transcript
  deriving DecidableEq

/-- How a role handles an awaited handshake message, and any message after the handshake. -/
structure Handlers (δ : Type) where
  awaited : Awaited → Arrival → Party δ → Handled δ
  /-- Messages that may come although another one is awaited. -/
  aside? : Message → Party δ → Option (Party δ)
  later : Message → Party δ → Handled δ

namespace Party

variable {δ : Type}

def isHandshaking (p : Party δ) : Bool :=
  !p.awaited.isEmpty

/-- Goes on to the next step. -/
def proceed (p : Party δ) : Party δ :=
  { p with awaited := p.awaited.tail }

/-! ### Output -/

/-- Queues one record. -/
def emitRecord (p : Party δ) (type : ContentType) (plain : Bytes) : Party δ :=
  match p.sending with
  | none =>
    { p with outgoing := p.outgoing ++ (Record.header type.code 3 3 plain.length ++ plain) }
  | some ch =>
    { p with outgoing := p.outgoing ++ ch.protect type.code plain, sending := some ch.next }

/-- Queues content in as many records as it needs. -/
def emit (p : Party δ) (type : ContentType) (plain : Bytes) : Party δ :=
  if _ : plain = [] then p
  else
    (p.emitRecord type (plain.take Record.maxPlaintext)).emit type
      (plain.drop Record.maxPlaintext)
termination_by plain.length
decreasing_by
  have := List.length_pos_iff.2 ‹¬plain = []›
  simp only [List.length_drop, Record.maxPlaintext]
  omega

/-- Queues handshake messages together. -/
def emitMessages (p : Party δ) (messages : List Message) : Party δ :=
  { p with transcript := messages.foldl .add p.transcript }.emit .handshake
    (messages.flatMap Message.encode)

/-- Queues every handshake message in a record of its own. -/
def emitEach (p : Party δ) (messages : List Message) : Party δ :=
  messages.foldl (fun p m => p.emitMessages [m]) p

def emitChangeCipherSpec (p : Party δ) : Party δ :=
  { ({ p with sending := none } : Party δ).emit .changeCipherSpec [1] with sending := p.sending }

def warningLevel : UInt8 := 1
def fatalLevel : UInt8 := 2

def emitAlert (p : Party δ) (level : UInt8) (alert : Alert) : Party δ :=
  p.emit .alert [level, alert.code]

/-- Ends the session with a fault. -/
def fail (p : Party δ) (fault : Fault) : Party δ :=
  let told := match fault.alert with
    | some alert => { p.emitAlert fatalLevel alert with closeSent := true }
    | none => p
  { told with failure := some fault.error }

/-- The most output that may be queued before plaintext is refused. -/
def outputLimit : Nat := 65536

/-- Protects as much plaintext as the limit allows, and counts it. -/
def write (p : Party δ) (plain : Bytes) : Party δ × Nat :=
  let taken := plain.take (outputLimit - p.outgoing.length)
  (p.emit .applicationData taken, taken.length)

def flush (p : Party δ) (room : Nat) : Party δ × Bytes :=
  ({ p with outgoing := p.outgoing.drop room }, p.outgoing.take room)

/-! ### Input -/

/-- The content types that fit what the party waits for. -/
def expected (p : Party δ) : List ContentType :=
  match p.awaited with
  | [] => if p.version = some .tls13 then [.applicationData, .handshake] else [.applicationData]
  | .changeCipherSpec :: _ => [.changeCipherSpec]
  | _ :: _ => [.handshake]

def unexpected (p : Party δ) (got : ContentType) : Handled δ :=
  (p, some (.unexpected (.inappropriateMessage got p.expected)))

/-- Warnings that are put up with. -/
def warningLimit : Nat := 4

/-- Records that TLS 1.3 sends for the sake of old middleboxes and that are put up with. -/
def compatibilityLimit : Nat := 2

/-- A warning is put up with a few times, in TLS 1.3 only if it says that a user gave up. -/
def handleWarning (p : Party δ) (alert : Alert) : Handled δ :=
  if warningLimit ≤ p.warnings then (p, some (.silent (.peerMisbehaved .tooManyWarningAlerts)))
  else if p.version = some .tls13 ∧ alert ≠ .userCanceled then
    (p, some ⟨.alertReceived alert, some .decodeError⟩)
  else ({ p with warnings := p.warnings + 1 }, none)

/-- After the end of the peer's data nothing that was taken counts any more. Before the handshake is
over nobody can be sure that the end comes from the peer. -/
def handleAlert (p : Party δ) (body : Bytes) : Handled δ :=
  match body with
  | [] => (p, some (.corrupt (.missingData "AlertLevel")))
  | [_] => (p, some (.corrupt (.missingData "AlertDescription")))
  | [level, code] =>
    let alert : Alert := ⟨code⟩
    if level ≠ warningLevel ∧ level ≠ fatalLevel then
      (p, some ⟨.alertReceived alert, some .illegalParameter⟩)
    else if alert = .closeNotify ∧ ¬p.isHandshaking then
      ({ p with peerClosed := true, incoming := [] }, none)
    else if level = warningLevel then p.handleWarning alert
    else (p, some (.silent (.alertReceived alert)))
  | _ :: _ :: _ :: _ => (p, some (.corrupt (.trailingData "AlertMessagePayload")))

/-- In the handshake of TLS 1.3 the message has no meaning; in TLS 1.2 it switches the protection
on. -/
def handleChangeCipherSpec (p : Party δ) (body : Bytes) : Handled δ :=
  if p.version = some .tls13 ∧ p.isHandshaking then
    if body ≠ [1] then
      (p, some (.unexpected (.peerMisbehaved .illegalChangeCipherSpec)))
    else if compatibilityLimit ≤ p.compatibilityRecords then
      (p, some (.silent (.peerMisbehaved .illegalChangeCipherSpec)))
    else
      ({ p with compatibilityRecords := p.compatibilityRecords + 1 }, none)
  else if body.head? ≠ some 1 then
    (p, some (.corrupt .changeCipherSpec))
  else if body.length ≠ 1 then
    (p, some (.corrupt (.trailingData "ChangeCipherSpecPayload")))
  else
    match p.awaited, p.choice with
    | .changeCipherSpec :: _, some choice =>
      let channel := choice.channel p.role.other .application p.keySource
      ({ p.proceed with receiving := some channel }, none)
    | _, _ => p.unexpected .changeCipherSpec

/-- Passes over so much early data, if it may still come. -/
def passOver? (p : Party δ) (length : Nat) : Option (Party δ) := do
  let left ← p.earlyLeft
  if length ≤ left then some { p with earlyLeft := some (left - length) } else none

/-- During the handshake data can only be early data that was refused. -/
def handleData (p : Party δ) (body : Bytes) : Handled δ :=
  if ¬p.isHandshaking then ({ p with plaintext := p.plaintext ++ body }, none)
  else
    match p.receiving, p.passOver? body.length with
    | none, some p => (p, none)
    | _, _ => p.unexpected .applicationData

/-- Whether a message has the form of the version that is spoken. -/
def isOfVersion (p : Party δ) (form : TlsVersion) (type : HandshakeType) : Bool :=
  !Form.dependsOnVersion type || p.version == some form

/-- Handles a message that has the form of a version. -/
def handleMessage (handlers : Handlers δ) (p : Party δ) (form : TlsVersion) (m : Message) :
    Handled δ :=
  match Form.check form m with
  | .error corruption => (p, some (.corrupt corruption))
  | .ok () =>
    let arrival : Arrival := ⟨m, p.transcript⟩
    let p := { p with transcript := p.transcript.add m }
    match p.awaited with
    | [] => handlers.later m p
    | awaited :: _ =>
      match handlers.aside? m p with
      | some p => (p, none)
      | none =>
        let type := Form.typeOf m
        let types := awaited.messages
        if types.isEmpty then p.unexpected .handshake
        else if types.contains type ∧ p.isOfVersion form type then
          handlers.awaited awaited arrival p
        else (p, some (.unexpected (.inappropriateHandshake type types)))

/-- Handles the whole messages that were joined, at most so many. No early data comes after them. -/
def handleMessages (handlers : Handlers δ) : Nat → Party δ → Handled δ
  | 0, p => (p, none)
  | messages + 1, p =>
    match Message.split? p.joined with
    | none => (p, none)
    | some (m, rest) =>
      let held := if rest.isEmpty then 0 else p.held
      let p := { p with joined := rest, held, earlyLeft := none }
      match handleMessage handlers p p.form m with
      | (p, some fault) => (p, some fault)
      | (p, none) => handleMessages handlers messages p

/-- What a record says, after its protection was taken off. -/
structure Content where
  type : UInt8
  body : Bytes
  /-- The version whose form the handshake messages have. -/
  form : TlsVersion
  /-- The length of the record. -/
  recordLength : Nat
  deriving DecidableEq

/-- Joins a part of a handshake with what was there before. -/
def join (p : Party δ) (c : Content) : Party δ :=
  { p with
    joined := p.joined ++ c.body
    form := if p.joined.isEmpty then c.form else p.form
    held := p.held + c.recordLength }

def handleContent (handlers : Handlers δ) (p : Party δ) (c : Content) : Handled δ :=
  match ContentType.ofCode? c.type with
  | some .changeCipherSpec => p.handleChangeCipherSpec c.body
  | some .alert => p.handleAlert c.body
  | some .handshake =>
    let p := p.join c
    if Message.exceed p.joined then
      (p, some (.silent (.invalidMessage .handshakePayloadTooLarge)))
    else
      handleMessages handlers p.joined.length p
  | some .applicationData => p.handleData c.body
  | some .heartbeat | none => (p, some (.corrupt .invalidContentType))

/-- Records that may come in the open although the peer's records are protected. -/
def mayBeOpen (p : Party δ) (type : UInt8) (body : Bytes) : Bool :=
  p.joined.isEmpty &&
    (type == ContentType.changeCipherSpec.code ||
      type == ContentType.alert.code && p.version == some .tls13 && !p.opened && body.length ≤ 2)

/-- Takes the protection off a record. -/
def unprotect? (p : Party δ) (h : Record.Header) (body : Bytes) : Option (Party δ × Content) :=
  let length := Record.headerLength + h.length
  let shown : Content :=
    ⟨h.type, body, if (h.major, h.minor) = (3, 4) then .tls13 else .tls12, length⟩
  match p.receiving with
  | none => some (p, shown)
  | some ch =>
    if p.mayBeOpen h.type body then some (p, shown)
    else
      (ch.open? h.type h.major h.minor body).map fun (type, plain) =>
        ({ p with receiving := some ch.next, opened := true }, ⟨type, plain, ch.version, length⟩)

/-- Records without content that may follow each other. -/
def emptyLimit : Nat := 32

/-- Counts the records without content; `none` if there are too many of them. -/
def countEmpty? (p : Party δ) (body : Bytes) : Option (Party δ) :=
  if ¬body.isEmpty then some { p with emptyRecords := 0 }
  else if emptyLimit ≤ p.emptyRecords then none
  else some { p with emptyRecords := p.emptyRecords + 1 }

/-- Handles a record that comes after the first `skipped` bytes of the input. When its protection is
wrong, or it comes between the parts of a handshake message, it stays there. -/
def handleRecord (handlers : Handlers δ) (p : Party δ) (skipped : Nat) (h : Record.Header)
    (body : Bytes) : Handled δ :=
  match p.unprotect? h body with
  | none => (p, some ⟨.decryptFailed, some .badRecordMac⟩)
  | some (p, c) =>
    if ¬p.joined.isEmpty ∧ ContentType.ofCode? c.type ≠ some .handshake then
      (p, some (.silent (.peerMisbehaved .interleavedHandshakeMessage)))
    else
      match p.countEmpty? c.body with
      | none => (p, some (.silent (.peerMisbehaved .tooManyEmptyFragments)))
      | some p =>
        handleContent handlers { p with incoming := p.incoming.drop (skipped + c.recordLength) } c

/-- Handles the record after the first `skipped` bytes of the input; `none` when there is no whole
one. -/
def handleNext (handlers : Handlers δ) (p : Party δ) (skipped : Nat) : Option (Handled δ) :=
  (Record.front? (p.incoming.drop skipped)).bind fun (h, rest) =>
    match h.fault? with
    | some corruption => some (p, some (.corrupt corruption))
    | none =>
      let body := rest.take h.length
      if body.length < h.length then none
      else some (handleRecord handlers p skipped h body)

/-- Passes over the whole record at the front of some input if it cannot be opened, and so may be
early data; also gives its length. -/
def refuse? (p : Party δ) (input : Bytes) : Option (Party δ × Nat) := do
  let (h, rest) ← Record.front? input
  let p ← p.passOver? h.length
  let body := rest.take h.length
  if h.fault?.isNone ∧ body.length = h.length ∧ (p.unprotect? h body).isNone then
    some (p, Record.headerLength + h.length)
  else
    none

/-- Passes over records at the front of some input, at most so many, and counts their bytes. They
stay in the input until a later record is handled, so they count again if none comes in time. -/
def refuse : Nat → Party δ → Bytes → Party δ × Nat
  | 0, p, _ => (p, 0)
  | records + 1, p, input =>
    match p.refuse? input with
    | some (p, length) =>
      let (p, others) := refuse records p (input.drop length)
      (p, length + others)
    | none => (p, 0)

/-- Handles at most so many records. -/
def handleRecords (handlers : Handlers δ) : Nat → Party δ → Party δ
  | 0, p => p
  | records + 1, p =>
    let (p, skipped) := p.refuse records p.incoming
    match handleNext handlers p skipped with
    | none => p
    | some (p, some fault) => p.fail fault
    | some (p, none) => handleRecords handlers records p

/-- Takes bytes from the network. -/
def take (p : Party δ) (bs : Bytes) : Party δ :=
  { p with incoming := p.incoming ++ bs }

/-- Handles all whole records taken so far. -/
def process (handlers : Handlers δ) (p : Party δ) : Party δ :=
  if p.failure.isSome then p else handleRecords handlers p.incoming.length p

end Party

end RecordLayer.Symbolic
