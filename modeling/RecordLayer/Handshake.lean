import RecordLayer.Transfer

/-!
# Driving a handshake

The driver asks the engine what it needs and makes one transfer in that direction, again and again.
A wrap reads from the scratch buffer and appends to the outbound buffer; an unwrap reads from the
inbound buffer and appends to the scratch buffer. It stops when the engine needs neither direction,
or when an unwrap ends for want of input or because the peer has closed.
-/

namespace RecordLayer

/-- An engine in the middle of its buffers. -/
structure Handshake (σ : Type) where
  engine : σ
  inbound : Buffer
  scratch : Buffer
  outbound : Buffer

namespace Handshake

variable {σ : Type}

/-- Scratch to outbound. -/
def wrap (E : Engine σ) (budget : Nat) (h : Handshake σ) :
    Outcome (Handshake σ) EngineError Report :=
  (Transfer.run E .wrap budget ⟨h.engine, h.scratch, h.outbound⟩).mapState fun t =>
    { h with engine := t.engine, scratch := t.source, outbound := t.destination }

/-- Inbound to scratch. -/
def unwrap (E : Engine σ) (budget : Nat) (h : Handshake σ) :
    Outcome (Handshake σ) EngineError Report :=
  (Transfer.run E .unwrap budget ⟨h.engine, h.inbound, h.scratch⟩).mapState fun t =>
    { h with engine := t.engine, inbound := t.source, scratch := t.destination }

/-- Follows the engine for at most so many turns, each of whose transfers has the given budget. -/
def drive (E : Engine σ) (budget : Nat) : Nat → Handshake σ → Outcome (Handshake σ) EngineError Unit
  | 0, h => ⟨h, [], .unfinished⟩
  | turns + 1, h =>
    let seen := E.handshakeStatus h.engine
    let rest : Outcome (Handshake σ) EngineError Unit :=
      match seen with
      | .needWrap => (h.wrap E budget).andThen fun h _ => drive E budget turns h
      | .needUnwrap =>
        (h.unwrap E budget).andThen fun h r =>
          if r.status = .underflow ∨ r.status = .closed then ⟨h, [], .done ()⟩
          else drive E budget turns h
      | .notHandshaking | .needTask | .finished => ⟨h, [], .done ()⟩
    rest.after [.turn seen]

end Handshake

end RecordLayer
