import RecordLayer.Error
import RecordLayer.Handshake

/-!
# Connections

A connection puts an engine between a host and a network that the host drives itself. The host
injects what came from the network and reads plaintext; it writes plaintext and extracts what has
to go to the network.

* `inbound` holds ciphertext that no unwrap has consumed yet;
* `mailbox` is a single slot for the plaintext to send: a second `write` replaces the first;
* `outbound` holds ciphertext that was not extracted yet. What a handshake had to say is there
  before any payload is wrapped.

A failed read returns at once: the inbound buffer stays turned around for reading, at the position
that it had reached.
-/

namespace RecordLayer

structure Connection (σ : Type) where
  engine : σ
  inbound : Buffer
  mailbox : Buffer
  outbound : Buffer

namespace Connection

variable {σ : Type}

/-- A connection over a fresh engine, with buffers of the engine's sizes. -/
def new (E : Engine σ) (s : σ) : Connection σ :=
  { engine := s
    inbound := .withCapacity (E.packetSize s)
    mailbox := (Buffer.withCapacity (E.applicationSize s)).flip
    outbound := .withCapacity (E.packetSize s) }

/-- Takes ciphertext from the network. -/
def inject (c : Connection σ) (bs : Bytes) : Connection σ :=
  { c with inbound := c.inbound.put bs }

/-- Keeps what was not read for the next time. -/
def settle (inbound : Buffer) : Buffer :=
  if inbound.hasRemaining then inbound.compact else inbound.clear

/-- Unwraps once and then follows the handshake. -/
def receive (E : Engine σ) (budget : Nat) (h : Handshake σ) :
    Outcome (Handshake σ) EngineError Unit :=
  (h.unwrap E budget).andThen fun h _ => h.drive E budget budget

/-- The plaintext of the injected records, as far as one unwrap and the handshake after it go. The
engine reads from the bytes that are held, and the position of the inbound buffer follows. -/
def read (E : Engine σ) (budget : Nat) (c : Connection σ) :
    Outcome (Connection σ) Error (Option Bytes) :=
  let inbound := c.inbound.flip
  if inbound.hasRemaining then
    let scratch := Buffer.withCapacity (E.applicationSize c.engine)
    let o := receive E budget ⟨c.engine, .ofBytes c.inbound.held, scratch, c.outbound⟩
    let left : Connection σ :=
      { c with engine := o.state.engine
               inbound := { inbound with position := o.state.inbound.position }
               outbound := o.state.outbound }
    match o.verdict with
    | .done _ =>
      ⟨{ left with inbound := settle left.inbound }, o.events, .done o.state.scratch.drain.1⟩
    | .failed e => ⟨left, o.events, .failed (.unexpectedEof e)⟩
    | .unfinished => ⟨left, o.events, .unfinished⟩
  else
    ⟨{ c with inbound := inbound.clear }, [], .done none⟩

/-- Puts plaintext into the mailbox and counts it. -/
def write (c : Connection σ) (bs : Bytes) : Outcome (Connection σ) Error Nat :=
  { state := { c with mailbox := .ofBytes bs }
    events := if c.mailbox.hasRemaining then [.discarded c.mailbox.remaining] else []
    verdict := .done bs.length }

/-- The ciphertext for the network: what is pending if there is any, else one wrap of the
mailbox. -/
def extract (E : Engine σ) (budget : Nat) (c : Connection σ) :
    Outcome (Connection σ) Error (Option Bytes) :=
  match c.outbound.drain with
  | (some pending, outbound) => ⟨{ c with outbound }, [], .done (some pending)⟩
  | (none, outbound) =>
    if c.mailbox.hasRemaining then
      let o := Transfer.run E .wrap budget ⟨c.engine, c.mailbox, outbound.clear⟩
      let left : Connection σ :=
        { c with engine := o.state.engine, mailbox := o.state.source,
                 outbound := o.state.destination }
      match o.verdict with
      | .done _ =>
        let (pending, outbound) := left.outbound.drain
        ⟨{ left with outbound }, o.events, .done pending⟩
      | .failed e => ⟨left, o.events, .failed (.connectionFailed e)⟩
      | .unfinished => ⟨left, o.events, .unfinished⟩
    else
      ⟨{ c with outbound }, [], .done none⟩

/-! ### Queries -/

/-- The first certificate of the peer's chain. -/
def peerCertificate (E : Engine σ) (c : Connection σ) : Option Bytes :=
  (E.peerCertificates c.engine).bind List.head?

def handshakeStatus (E : Engine σ) (c : Connection σ) : HandshakeStatus :=
  E.handshakeStatus c.engine

/-- The connection as shown in diagnostics. -/
def describe (c : Connection σ) : String :=
  "Connection \x7b inbound_cipher: " ++ c.inbound.describe ++ ", outbound_plain_remaining: " ++
    toString c.mailbox.remaining ++ ", outbound_cipher: " ++ c.outbound.describe ++ ", .. \x7d"

end Connection

end RecordLayer
