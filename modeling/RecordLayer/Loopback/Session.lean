import RecordLayer.Connection.Command
import RecordLayer.Context
import RecordLayer.Log
import RecordLayer.Loopback.Pump

/-!
# Loopback sessions

A loopback session is a client and a server in one place: a context, a connection from it, and a
link. It shows a connection at work over a TLS implementation without any network.
-/

namespace RecordLayer.Loopback

open Symbolic

/-- What a session runs on. -/
structure Setting (σ : Type) where
  environment : Environment σ
  engine : Engine σ
  /-- A bound on the engine calls of one operation. -/
  budget : Nat

structure Session (σ : Type) where
  contexts : Contexts
  connection : Connection σ
  link : Link

namespace Session

inductive Command where
  | link (command : Link.Command)
  | connection (command : Connection.Command)
  /-- Injects bytes from the wire. -/
  | inject (amount : Amount)
  /-- Puts what was extracted on the wire to the client. -/
  | extract
  | reload (keys : KeyMaterial)
  | newServer
  | newClient (settings : ClientSettings)
  | pump
  deriving DecidableEq

/-- What a pumping came to. -/
structure Pumped where
  read : Bytes
  received : Bytes
  verdict : Verdict Failure Unit
  clientHandshaking : Bool
  status : HandshakeStatus
  deriving DecidableEq

inductive Reply where
  | link (reply : Link.Reply)
  | connection (reply : Connection.Reply)
  | reloaded
  | failed (error : Error)
  | pumped (result : Pumped)
  | noContext
  deriving DecidableEq

/-- What one command did. -/
structure Step (σ : Type) where
  session : Session σ
  log : List Log.Entry
  reply : Reply

variable {σ : Type}

/-- The index of the one context of a session. -/
def context : Nat := 0

/-- A session over a new context. -/
def start (S : Setting σ) (options : Options) (keys : KeyMaterial) (client : ClientSettings) :
    Noted (Session σ) :=
  (Contexts.first S.environment options keys).andThen fun (contexts, fresh) =>
    .ok ⟨contexts, .new S.engine fresh, .start client 0⟩

def onConnection (S : Setting σ) (s : Session σ) (command : Connection.Command) : Step σ :=
  let done := s.connection.step S.engine S.budget command
  ⟨{ s with connection := done.connection }, Log.ofEvents done.events, .connection done.reply⟩

def inject (S : Setting σ) (s : Session σ) (amount : Amount) : Step σ :=
  let (link, bs) := s.link.take amount
  onConnection S { s with link } (.inject bs)

def extract (S : Setting σ) (s : Session σ) : Step σ :=
  let done := onConnection S s .extract
  match done.reply with
  | .connection (.payload (some bs)) =>
    { done with session := { done.session with link := done.session.link.send bs } }
  | _ => done

def pump (S : Setting σ) (s : Session σ) : Step σ :=
  let o := Pump.run S.engine S.budget ⟨s.connection, s.link, [], []⟩
  { session := { s with connection := o.state.connection, link := o.state.link }
    log := Log.ofEvents o.events
    reply := .pumped {
      read := o.state.read
      received := o.state.received
      verdict := o.verdict
      clientHandshaking := Party.isHandshaking o.state.link.client
      status := o.state.connection.handshakeStatus S.engine } }

/-- Performs one command. -/
def step (S : Setting σ) (s : Session σ) : Command → Step σ
  | .link command =>
    let (link, reply) := s.link.step command
    ⟨{ s with link }, [], .link reply⟩
  | .connection command => onConnection S s command
  | .inject amount => inject S s amount
  | .extract => extract S s
  | .reload keys =>
    let done := Contexts.step S.environment s.contexts (.reload context keys)
    { session := { s with contexts := done.contexts }
      log := Log.ofNotices done.notices
      reply :=
        match done.reply with
        | .reloaded => .reloaded
        | .failed e => .failed e
        | _ => .noContext }
  | .newServer =>
    let done := Contexts.step S.environment s.contexts (.server context)
    let s := { s with contexts := done.contexts }
    match done.reply with
    | .session fresh =>
      onConnection S { s with connection := .new S.engine fresh } .handshakeStatus
    | .failed e => ⟨s, [], .failed e⟩
    | _ => ⟨s, [], .noContext⟩
  | .newClient settings => ⟨{ s with link := s.link.restart settings }, [], .link .silent⟩
  | .pump => pump S s

/-- Performs commands one after the other. -/
def history (S : Setting σ) : Session σ → List Command → List (Step σ)
  | _, [] => []
  | s, command :: rest =>
    let first := step S s command
    first :: history S first.session rest

end Session

end RecordLayer.Loopback
