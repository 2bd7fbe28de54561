import RecordLayer.Engine
import RecordLayer.Record
import RecordLayer.Tls.Provider

/-!
# TLS sessions as engines

`Tls.engine` makes an engine of any TLS implementation.

* A wrap first flushes the output that the session has queued. Only when there was none does it hand
  over plaintext.
* An unwrap first hands out the plaintext of the last record. Only when there is none left does it
  feed the session one more whole record.

So at most one record is under way in each direction, however small the regions are.
-/

namespace RecordLayer.Tls

/-- A session with the count of its decrypted bytes that nobody has read yet. -/
structure State (ρ : Type) where
  session : ρ
  pending : Nat := 0
  peerClosed : Bool := false

variable {ρ : Type}

/-- Hands out plaintext that waits in the session, as much as there is room for. -/
def deliver (P : Provider ρ) (s : State ρ) (room : Nat) : State ρ × Except EngineError Bytes :=
  if s.pending = 0 ∨ room = 0 then
    (s, .ok [])
  else
    match P.readPlaintext s.session room with
    | (session, .bytes bs) =>
      let got := bs.take room
      let left := if got = [] then 0 else s.pending - got.length
      ({ s with session, pending := left }, .ok got)
    | (session, .wouldBlock) => ({ s with session, pending := 0 }, .ok [])
    | (session, .failed text) => ({ s with session }, .error (.io text))

/-- What flushing came to: the bytes are written also when it fails in the end. -/
structure Flushed (ρ : Type) where
  session : ρ
  written : Bytes
  failure : Option EngineError

/-- Flushes queued output until there is none, or no room, or the session moves nothing. -/
def flush (P : Provider ρ) (session : ρ) (room : Nat) : Flushed ρ :=
  if P.wantsWrite session then
    match P.flush session room with
    | (session, .error text) => ⟨session, [], some (.io text)⟩
    | (session, .ok bs) =>
      if _ : (bs.take room).length = 0 then
        ⟨session, [], none⟩
      else
        let rest := flush P session (room - (bs.take room).length)
        { rest with written := bs.take room ++ rest.written }
  else
    ⟨session, [], none⟩
termination_by room
decreasing_by
  have := List.length_take_le room bs
  omega

/-- Feeds a whole record to the session. -/
def feed (P : Provider ρ) (session : ρ) (record : Bytes) : ρ × Except EngineError Unit :=
  if _ : record = [] then
    (session, .ok ())
  else
    match P.feed session record with
    | (session, .error text) => (session, .error (.io text))
    | (session, .ok 0) => (session, .error (.misbehaved .recordRefused))
    | (session, .ok (taken + 1)) => feed P session (record.drop (taken + 1))
termination_by record.length
decreasing_by
  have := List.length_pos_iff.2 ‹¬record = []›
  simp only [List.length_drop]
  omega

/-- Output that did not fit makes a wrap overflow. -/
def flushStatus (P : Provider ρ) (session : ρ) : Status :=
  if P.wantsWrite session then .overflow else .ok

/-- Ends a wrap that consumed so many bytes by flushing. -/
def finishWrap (P : Provider ρ) (s : State ρ) (room consumed : Nat) : Answer (State ρ) :=
  let f := flush P s.session room
  { engine := { s with session := f.session }
    written := f.written
    report :=
      match f.failure with
      | some e => .error e
      | none => .ok ⟨flushStatus P f.session, consumed, f.written.length⟩ }

def wrap (P : Provider ρ) (s : State ρ) (source : Bytes) (room : Nat) : Answer (State ρ) :=
  if P.wantsWrite s.session then
    finishWrap P s room 0
  else if P.isHandshaking s.session ∨ source = [] then
    ⟨s, [], .ok ⟨.ok, 0, 0⟩⟩
  else
    match P.writePlaintext s.session source with
    | (session, .error text) => ⟨{ s with session }, [], .error (.io text)⟩
    | (session, .ok taken) => finishWrap P { s with session } room taken

/-- The status of an unwrap that fed a record. -/
def unwrapStatus (s : State ρ) : Status :=
  if 0 < s.pending then .overflow else if s.peerClosed then .closed else .ok

/-- Feeds and processes one whole record, after `earlier` was handed out. -/
def openRecord (P : Provider ρ) (s : State ρ) (record earlier : Bytes) (room : Nat) :
    Answer (State ρ) :=
  match feed P s.session record with
  | (session, .error e) => ⟨{ s with session }, earlier, .error e⟩
  | (session, .ok _) =>
    match P.process session with
    | (session, .error e) => ⟨{ s with session }, earlier, .error (.protocol e)⟩
    | (session, .ok progress) =>
      let s : State ρ := ⟨session, progress.plaintext, progress.peerClosed⟩
      match deliver P s (room - earlier.length) with
      | (s, .error e) => ⟨s, earlier, .error e⟩
      | (s, .ok later) =>
        ⟨s, earlier ++ later,
          .ok ⟨unwrapStatus s, record.length, earlier.length + later.length⟩⟩

def unwrap (P : Provider ρ) (s : State ρ) (source : Bytes) (room : Nat) : Answer (State ρ) :=
  match deliver P s room with
  | (s, .error e) => ⟨s, [], .error e⟩
  | (s, .ok earlier) =>
    if 0 < s.pending then
      ⟨s, earlier, .ok ⟨.overflow, 0, earlier.length⟩⟩
    else if s.peerClosed then
      ⟨s, earlier, .ok ⟨.closed, 0, earlier.length⟩⟩
    else
      match Record.completeLength source with
      | .error e => ⟨s, earlier, .error (.protocol e)⟩
      | .ok none => ⟨s, earlier, .ok ⟨.underflow, 0, earlier.length⟩⟩
      | .ok (some length) => openRecord P s (source.take length) earlier room

def handshakeStatus (P : Provider ρ) (s : State ρ) : HandshakeStatus :=
  if P.wantsWrite s.session then .needWrap
  else if P.isHandshaking s.session then .needUnwrap
  else .notHandshaking

/-- A TLS implementation as an engine; it delegates no tasks. -/
def engine (P : Provider ρ) : Engine (State ρ) where
  call
    | .wrap, s, source, destination => wrap P s source destination.length
    | .unwrap, s, source, destination => unwrap P s source destination.length
  handshakeStatus := handshakeStatus P
  nextTask s := (s, none)
  packetSize _ := Record.maxLength
  applicationSize _ := Record.maxPlaintext
  peerCertificates s := P.peerCertificates s.session

end RecordLayer.Tls
