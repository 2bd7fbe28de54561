import RecordLayer.Connection

/-!
# Commands on a connection

The operations and queries of a connection as data. `Connection.step` performs one command and
`Connection.history` a whole list, also past failures: a host may go on after an error.
-/

namespace RecordLayer.Connection

inductive Command where
  | inject (bs : Bytes)
  | read
  | write (bs : Bytes)
  | extract
  | peerCertificate
  | handshakeStatus
  | shutdown
  | isInitializing
  | describe
  deriving DecidableEq

inductive Reply where
  | silent
  | payload (bs : Option Bytes)
  | failed (error : Error)
  | unfinished
  | count (n : Nat)
  | certificate (der : Option Bytes)
  | status (seen : HandshakeStatus)
  | flag (b : Bool)
  | text (s : String)
  deriving DecidableEq

/-- What one command did. -/
structure Step (σ : Type) where
  connection : Connection σ
  events : List Event
  reply : Reply

variable {σ : Type}

/-- The step of an operation that may fail. -/
def Step.ofOutcome {α : Type} (o : Outcome (Connection σ) Error α) (reply : α → Reply) : Step σ :=
  { connection := o.state
    events := o.events
    reply :=
      match o.verdict with
      | .done a => reply a
      | .failed e => .failed e
      | .unfinished => .unfinished }

/-- The step of a query: nothing changes. -/
def Step.query (c : Connection σ) (reply : Reply) : Step σ :=
  ⟨c, [], reply⟩

/-- Performs one command. Shutting down is always granted, and a connection never shows itself as
initialising: the engine's status tells that. -/
def step (E : Engine σ) (budget : Nat) (c : Connection σ) : Command → Step σ
  | .inject bs => ⟨c.inject bs, [], .silent⟩
  | .read => .ofOutcome (c.read E budget) .payload
  | .write bs => .ofOutcome (c.write bs) .count
  | .extract => .ofOutcome (c.extract E budget) .payload
  | .peerCertificate => .query c (.certificate (c.peerCertificate E))
  | .handshakeStatus => .query c (.status (c.handshakeStatus E))
  | .shutdown => .query c (.flag true)
  | .isInitializing => .query c (.flag false)
  | .describe => .query c (.text c.describe)

/-- Performs commands one after the other. -/
def history (E : Engine σ) (budget : Nat) : Connection σ → List Command → List (Step σ)
  | _, [] => []
  | c, command :: rest =>
    let first := c.step E budget command
    first :: history E budget first.connection rest

end RecordLayer.Connection
