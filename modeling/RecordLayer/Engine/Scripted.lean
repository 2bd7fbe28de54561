import RecordLayer.Engine

/-!
# Scripted engines

An engine that plays a script: a queue of actions for each direction, a queue of handshake statuses
and a queue of tasks. It keeps a journal of the calls made to it and of the tasks run. A script can
overflow, fail, lie about its counts or transform what it is given, so it brings every corner of the
record layer to light without any cryptography.

After `Scripted.callLimit` calls every further call fails, so that no script keeps a runner busy for
ever.
-/

namespace RecordLayer

namespace Scripted

/-- What an action writes: given bytes, or so many copies of the script's fill byte. -/
inductive Content where
  | bytes (bs : Bytes)
  | repeated (count : Nat)
  deriving DecidableEq

def Content.length : Content → Nat
  | bytes bs => bs.length
  | repeated count => count

/-- The first `room` bytes. -/
def Content.fit (fill : UInt8) (room : Nat) : Content → Bytes
  | bytes bs => bs.take room
  | repeated count => List.replicate (min count room) fill

/-- What a script does with one call. -/
inductive Action where
  /-- Reports underflow and does nothing. -/
  | idle
  | fail (error : EngineError)
  /-- Copies the source through a mask. At most `asked` bytes are wanted; without a status of its
  own the action overflows when they do not fit. -/
  | echo (mask : UInt8) (asked : Option Nat) (status : Option Status)
  /-- Consumes and writes, and reports what it did. -/
  | give (status : Status) (asked : Option Nat) (content : Content)
  /-- As `give`, but reports what was asked for instead of what fitted. -/
  | boast (status : Status) (asked : Option Nat) (content : Content)
  deriving DecidableEq

/-- One line of the journal. -/
inductive Entry where
  | call (direction : Direction) (source : Bytes) (room : Nat)
  | task (number : Nat)
  deriving DecidableEq

end Scripted

/-- A script and how far it has been played. -/
structure Scripted where
  packet : Nat := 32
  application : Nat := 16
  fill : UInt8 := 35
  /-- Whether each call also takes away the front status. -/
  stepping : Bool := false
  statuses : List HandshakeStatus := []
  /-- A task that fails has a reason. -/
  tasks : List (Option String) := []
  certificates : Option (List Bytes) := none
  wraps : List Scripted.Action := []
  unwraps : List Scripted.Action := []
  wrapDefault : Scripted.Action := .idle
  unwrapDefault : Scripted.Action := .idle
  calls : Nat := 0
  /-- How many tasks were handed out. -/
  handedOut : Nat := 0
  journal : List Scripted.Entry := []

namespace Scripted

/-- The number of calls that a script answers. -/
def callLimit : Nat := 200

def handshakeStatus (s : Scripted) : HandshakeStatus :=
  s.statuses.headD .notHandshaking

def record (s : Scripted) (entry : Entry) : Scripted :=
  { s with journal := s.journal ++ [entry] }

/-- The next action in a direction. -/
def nextAction (s : Scripted) : Direction → Action × Scripted
  | .wrap =>
    match s.wraps with
    | [] => (s.wrapDefault, s)
    | action :: rest => (action, { s with wraps := rest })
  | .unwrap =>
    match s.unwraps with
    | [] => (s.unwrapDefault, s)
    | action :: rest => (action, { s with unwraps := rest })

/-- What an action writes and reports, for a source and a length of the destination. -/
def Action.perform (fill : UInt8) (source : Bytes) (room : Nat) :
    Action → Bytes × Except EngineError Report
  | idle => ([], .ok ⟨.underflow, 0, 0⟩)
  | fail error => ([], .error error)
  | echo mask asked status =>
    let wanted := min (asked.getD source.length) source.length
    let moved := min wanted room
    let natural : Status := if moved < wanted then .overflow else .ok
    ((source.take moved).map (· ^^^ mask), .ok ⟨status.getD natural, moved, moved⟩)
  | give status asked content =>
    (content.fit fill room,
      .ok ⟨status, min (asked.getD source.length) source.length, min content.length room⟩)
  | boast status asked content =>
    (content.fit fill room, .ok ⟨status, asked.getD source.length, content.length⟩)

/-- Takes away the front status when the script is stepping. -/
def stepStatus (s : Scripted) : Scripted :=
  if s.stepping then { s with statuses := s.statuses.tail } else s

def call (direction : Direction) (s : Scripted) (source destination : Bytes) : Answer Scripted :=
  let counted := { s.record (.call direction source destination.length) with calls := s.calls + 1 }
  if callLimit < counted.calls then
    ⟨counted, [], .error (.misbehaved (.other "call limit"))⟩
  else
    let (action, rest) := counted.nextAction direction
    let (written, report) := action.perform s.fill source destination.length
    ⟨rest.stepStatus, written, report⟩

/-- Drops a front `needTask` once no task is left. -/
def dropDoneTasks (s : Scripted) : Scripted :=
  if s.tasks.isEmpty ∧ s.statuses.head? = some .needTask then
    { s with statuses := s.statuses.tail }
  else s

def runTask (number : Nat) (reason : Option String) (s : Scripted) :
    Scripted × Option EngineError :=
  (s.record (.task number), reason.map .task)

def nextTask (s : Scripted) : Scripted × Option (Task Scripted) :=
  match s.tasks with
  | [] => (s.dropDoneTasks, none)
  | reason :: rest =>
    (({ s with tasks := rest, handedOut := s.handedOut + 1 }).dropDoneTasks,
      some (runTask s.handedOut reason))

/-- Scripts as engines. -/
def engine : Engine Scripted where
  call := call
  handshakeStatus := handshakeStatus
  nextTask := nextTask
  packetSize := packet
  applicationSize := application
  peerCertificates := certificates

/-- The journal since it was last taken. -/
def takeJournal (s : Scripted) : List Entry × Scripted :=
  (s.journal, { s with journal := [] })

end Scripted

end RecordLayer
