import RecordLayer.Loopback.Link
import RecordLayer.Symbolic.Server

/-!
# Probes

A probe works on a bare server engine, without a connection's buffers: it chooses the regions of
every call itself, also ones that are too small.
-/

namespace RecordLayer.Loopback

open Symbolic

structure Probe where
  engine : Tls.State Server
  link : Link

namespace Probe

inductive Command where
  | link (command : Link.Command)
  | handshake
  /-- Unwraps bytes from the wire into a region; what was not consumed goes back. -/
  | unwrap (amount : Amount) (room : Nat)
  | wrap (bs : Bytes) (room : Nat)
  | info
  deriving DecidableEq

/-- What an engine shows of itself. -/
structure Info where
  status : HandshakeStatus
  hasTask : Bool
  packetSize : Nat
  applicationSize : Nat
  peer : Option (List Bytes)
  version : Option TlsVersion
  host : Option String
  deriving DecidableEq

inductive Reply where
  | link (reply : Link.Reply)
  /-- The report of a call, with the bytes that it wrote. -/
  | called (report : Except EngineError Report) (written : Bytes) (status : HandshakeStatus)
  | handshaken (status : HandshakeStatus)
  | serverFailed (error : EngineError)
  | clientFailed (error : ProtocolError)
  | info (shown : Info)

/-- A probe of a fresh engine of a new context. -/
def start (options : Options) (keys : KeyMaterial) (client : ClientSettings) : Noted Probe :=
  (Contexts.first Server.environment options keys).andThen fun (_, fresh) =>
    .ok ⟨fresh, .start client 0⟩

/-- The region of the calls in a handshake. -/
def handshakeRoom : Nat := 65536

/-- One call with a region of zeros. -/
def call (p : Probe) (direction : Direction) (source : Bytes) (room : Nat) :
    Probe × Except EngineError Report × Bytes :=
  let answer := Server.engine.call direction p.engine source (List.replicate room 0)
  ({ p with engine := answer.engine }, answer.report, answer.written)

def status (p : Probe) : HandshakeStatus :=
  Server.engine.handshakeStatus p.engine

def wrap (p : Probe) (bs : Bytes) (room : Nat) :
    Probe × Except EngineError Report × Bytes :=
  let (p, report, written) := p.call .wrap bs room
  match report with
  | .ok _ => ({ p with link := p.link.send written }, report, written)
  | .error _ => (p, report, written)

def unwrap (p : Probe) (amount : Amount) (room : Nat) :
    Probe × Except EngineError Report × Bytes :=
  let (link, source) := p.link.take amount
  let (p, report, written) := ({ p with link } : Probe).call .unwrap source room
  match report with
  | .ok r =>
    let link := { p.link with toServer := source.drop r.consumed ++ p.link.toServer }
    ({ p with link }, report, written)
  | .error _ => (p, report, written)

/-- Unwraps until the wire is empty or nothing is consumed, at most so often. What a failing unwrap
was given stays on the wire. -/
def unwrapAll : Nat → Probe → Probe × Except EngineError Unit
  | 0, p => (p, .ok ())
  | calls + 1, p =>
    if p.link.toServer.isEmpty then (p, .ok ())
    else
      match p.unwrap .all handshakeRoom with
      | (failed, .error e, _) => ({ failed with link := p.link }, .error e)
      | (p, .ok r, _) => if r.consumed = 0 then (p, .ok ()) else unwrapAll calls p

/-- The client speaks, the engine takes all of it and answers, and the client takes the answer. -/
def exchange (p : Probe) : Probe × Option Reply :=
  let p : Probe := { p with link := p.link.flush.1 }
  match unwrapAll p.link.toServer.length p with
  | (p, .error e) => (p, some (.serverFailed e))
  | (p, .ok _) =>
    match p.wrap [] handshakeRoom with
    | (p, .error e, _) => (p, some (.serverFailed e))
    | (p, .ok _, _) =>
      match p.link.deliver with
      | (link, .error e) => ({ p with link }, some (.clientFailed e))
      | (link, .ok _) => ({ p with link }, none)

/-- Exchanges so many times, until one fails. -/
def exchanges : Nat → Probe → Probe × Reply
  | 0, p => (p, .handshaken p.status)
  | left + 1, p =>
    match p.exchange with
    | (p, some failed) => (p, failed)
    | (p, none) => exchanges left p

/-- More exchanges than any handshake takes. -/
def handshakeExchanges : Nat := 8

def inspect (p : Probe) : Info :=
  let E := Server.engine
  { status := p.status
    hasTask := (E.nextTask p.engine).2.isSome
    packetSize := E.packetSize p.engine
    applicationSize := E.applicationSize p.engine
    peer := E.peerCertificates p.engine
    version := p.engine.session.version
    host := p.engine.session.data.host }

/-- Performs one command. -/
def step (p : Probe) : Command → Probe × Reply
  | .link command =>
    let (link, reply) := p.link.step command
    ({ p with link }, .link reply)
  | .handshake => exchanges handshakeExchanges p
  | .unwrap amount room =>
    let (p, report, written) := p.unwrap amount room
    (p, .called report written p.status)
  | .wrap bs room =>
    let (p, report, written) := p.wrap bs room
    (p, .called report written p.status)
  | .info => (p, .info p.inspect)

end Probe

end RecordLayer.Loopback
