import RecordLayer.Connection
import RecordLayer.Loopback.Link

/-!
# Pumping

A pump carries bytes back and forth between a client and a connection until nothing moves any more.
In one round the connection gets what lies on its wire and what the client has to send, then it is
read and extracted from until it has nothing left, and then the client gets the answer.
-/

namespace RecordLayer.Loopback

/-- A connection, a client, and what each of them was told. -/
structure Pump (σ : Type) where
  connection : Connection σ
  link : Link
  /-- Plaintext that the connection gave. -/
  read : Bytes := []
  /-- Plaintext that the client gave. -/
  received : Bytes := []

/-- Which side failed, and why. -/
inductive Failure where
  | server (error : Error)
  | client (error : ProtocolError)
  deriving DecidableEq

namespace Pump

variable {σ : Type}

/-- The outcome of a part of a round; its value says whether anything moved. -/
abbrev Moved (σ : Type) : Type :=
  Outcome (Pump σ) Failure Bool

/-- An operation on the connection of the pump. -/
def onConnection {α : Type} (p : Pump σ)
    (operation : Connection σ → Outcome (Connection σ) Error α) : Outcome (Pump σ) Failure α :=
  let o := operation p.connection
  ⟨{ p with connection := o.state }, o.events, o.verdict.mapError .server⟩

/-- Injects what lies on the wire and what the client has to send. -/
def inject (p : Pump σ) : Moved σ :=
  let (link, bs) := p.link.flush.1.take .all
  let connection := if bs.isEmpty then p.connection else p.connection.inject bs
  ⟨{ p with connection, link }, [], .done !bs.isEmpty⟩

/-- Reads until there is nothing left. -/
def readAll (E : Engine σ) (budget : Nat) : Nat → Bool → Pump σ → Moved σ
  | 0, _, p => ⟨p, [], .unfinished⟩
  | reads + 1, moved, p =>
    (p.onConnection (·.read E budget)).andThen fun p got =>
      match got with
      | none => ⟨p, [], .done moved⟩
      | some bs => readAll E budget reads true { p with read := p.read ++ bs }

/-- Extracts until there is nothing left. -/
def extractAll (E : Engine σ) (budget : Nat) : Nat → Bool → Pump σ → Moved σ
  | 0, _, p => ⟨p, [], .unfinished⟩
  | extracts + 1, moved, p =>
    (p.onConnection (·.extract E budget)).andThen fun p got =>
      match got with
      | none => ⟨p, [], .done moved⟩
      | some bs => extractAll E budget extracts true { p with link := p.link.send bs }

/-- Gives the client what was extracted. -/
def deliver (moved : Bool) (p : Pump σ) : Moved σ :=
  match p.link.deliver with
  | (link, .ok bs) => ⟨{ p with link, received := p.received ++ bs }, [], .done moved⟩
  | (link, .error e) => ⟨{ p with link }, [], .failed (.client e)⟩

def round (E : Engine σ) (budget : Nat) (p : Pump σ) : Moved σ :=
  (inject p).andThen fun p moved =>
    (readAll E budget budget moved p).andThen fun p moved =>
      (extractAll E budget budget moved p).andThen fun p moved =>
        deliver moved p

/-- The number of idle rounds in a row that end a pumping. -/
def idleLimit : Nat := 3

/-- Makes at most so many rounds. -/
def rounds (E : Engine σ) (budget : Nat) : Nat → Nat → Pump σ → Outcome (Pump σ) Failure Unit
  | 0, _, p => ⟨p, [], .done ()⟩
  | left + 1, idle, p =>
    (round E budget p).andThen fun p moved =>
      if moved then rounds E budget left 0 p
      else if idle + 1 = idleLimit then ⟨p, [], .done ()⟩
      else rounds E budget left (idle + 1) p

/-- The number of rounds after which a pumping ends in any case. -/
def roundLimit : Nat := 64

def run (E : Engine σ) (budget : Nat) (p : Pump σ) : Outcome (Pump σ) Failure Unit :=
  rounds E budget roundLimit 0 p

end Pump

end RecordLayer.Loopback
