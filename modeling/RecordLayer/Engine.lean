import RecordLayer.Bytes
import RecordLayer.Error.Engine

/-!
# Engines

An engine is what protects and opens records. The record layer only hands it a source region and a
destination region and asks for one call in one direction; it never looks inside. An engine is given
by its state type and its answers:

* `Engine.call` takes one step and reports how many bytes it consumed and produced, truthfully or
  not;
* `Engine.handshakeStatus` says what the engine needs next and has to be asked anew after each call;
* `Engine.nextTask` hands out work that has to be done before the handshake can go on.
-/

namespace RecordLayer

/-- How one engine call ended. -/
inductive Status where
  | ok
  /-- The destination region is too small. -/
  | overflow
  /-- The source region holds no whole record. -/
  | underflow
  | closed
  deriving DecidableEq

/-- What an engine needs next. -/
inductive HandshakeStatus where
  | notHandshaking
  | needWrap
  | needUnwrap
  | needTask
  | finished
  deriving DecidableEq

def HandshakeStatus.name : HandshakeStatus → String
  | notHandshaking => "NotHandshaking"
  | needWrap => "NeedWrap"
  | needUnwrap => "NeedUnwrap"
  | needTask => "NeedTask"
  | finished => "Finished"

/-- What an engine says about one call. -/
structure Report where
  status : Status
  consumed : Nat
  produced : Nat
  deriving DecidableEq

/-- What one call leaves behind: the engine, the bytes it wrote over the front of the destination
region, and its report. -/
structure Answer (σ : Type) where
  engine : σ
  written : Bytes
  report : Except EngineError Report

/-- A delegated task changes the engine and may fail. -/
abbrev Task (σ : Type) : Type :=
  σ → σ × Option EngineError

/-- An engine over states of type `σ`. -/
structure Engine (σ : Type) where
  /-- One call with the bytes of the source region and of the destination region. -/
  call : Direction → σ → Bytes → Bytes → Answer σ
  handshakeStatus : σ → HandshakeStatus
  nextTask : σ → σ × Option (Task σ)
  /-- The length of the longest record. -/
  packetSize : σ → Nat
  /-- The length of the longest plaintext of one record. -/
  applicationSize : σ → Nat
  peerCertificates : σ → Option (List Bytes)

/-- The larger of the two sizes of an engine. -/
def Engine.sessionSize {σ : Type} (E : Engine σ) (s : σ) : Nat :=
  max (E.packetSize s) (E.applicationSize s)

end RecordLayer
