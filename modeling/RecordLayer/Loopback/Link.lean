import RecordLayer.Symbolic.Client

/-!
# Links

A link is a client with the two wires that join it to a server. What the client sends lies on one
wire until the server takes it, and what the server sends on the other until the client does. On the
way to the server bytes can be changed, repeated, lost or added.
-/

namespace RecordLayer.Loopback

open Symbolic

/-- How many bytes to take from the front of a wire. -/
inductive Amount where
  | all
  | atMost (n : Nat)
  /-- All but the last so many. -/
  | allBut (n : Nat)
  deriving DecidableEq

def Amount.count : Amount → Nat → Nat
  | all, length => length
  | atMost n, length => min n length
  | allBut n, length => length - n

structure Link where
  client : Client
  /-- Which of the clients it is that were here. -/
  number : Nat := 0
  toServer : Bytes := []
  toClient : Bytes := []

namespace Link

/-- A place on a wire. -/
inductive Place where
  | fromFront (n : Nat)
  /-- The last byte is at one. -/
  | fromEnd (n : Nat)
  deriving DecidableEq

def Place.index? : Place → Nat → Option Nat
  | fromFront n, length => if n < length then some n else none
  | fromEnd n, length => if 0 < n ∧ n ≤ length then some (length - n) else none

inductive Command where
  | write (bs : Bytes)
  | close
  | flush
  | corrupt (place : Place) (mask : UInt8)
  | duplicate
  | drop (amount : Amount)
  | append (bs : Bytes)
  | deliver
  | summarize
  deriving DecidableEq

inductive Reply where
  | silent
  | count (n : Nat)
  | sent (bs : Bytes)
  | flag (b : Bool)
  | plaintext (bs : Bytes)
  | failed (error : ProtocolError)
  | summary (shown : Client.Summary)
  deriving DecidableEq

/-- Joins a fresh client. -/
def start (settings : ClientSettings) (number : Nat) : Link :=
  { client := .start settings number, number }

/-- Joins the next client, with empty wires. -/
def restart (l : Link) (settings : ClientSettings) : Link :=
  start settings (l.number + 1)

/-- Puts what the client has to send on its wire. -/
def flush (l : Link) : Link × Bytes :=
  let (client, sent) := Client.flush l.client
  ({ l with client, toServer := l.toServer ++ sent }, sent)

/-- Takes bytes off the wire to the server. -/
def take (l : Link) (amount : Amount) : Link × Bytes :=
  let count := amount.count l.toServer.length
  ({ l with toServer := l.toServer.drop count }, l.toServer.take count)

/-- Puts bytes of the server on the wire to the client. -/
def send (l : Link) (bs : Bytes) : Link :=
  { l with toClient := l.toClient ++ bs }

/-- Gives the client all that the server has sent. -/
def deliver (l : Link) : Link × Except ProtocolError Bytes :=
  let (client, got) := Client.deliver l.client l.toClient
  ({ l with client, toClient := [] }, got)

/-- Changes one byte on the way to the server, if there is one at the place. -/
def corrupt (l : Link) (place : Place) (mask : UInt8) : Link :=
  match place.index? l.toServer.length with
  | some i => { l with toServer := l.toServer.modify i (· ^^^ mask) }
  | none => l

/-- Performs one command. -/
def step (l : Link) : Command → Link × Reply
  | .write bs =>
    let (client, count) := Client.write l.client bs
    ({ l with client }, .count count)
  | .close => ({ l with client := Client.close l.client }, .silent)
  | .flush =>
    let (l, sent) := l.flush
    (l, .sent sent)
  | .corrupt place mask => (l.corrupt place mask, .silent)
  | .duplicate => ({ l with toServer := l.toServer ++ l.toServer }, .silent)
  | .drop amount =>
    let (l, lost) := l.take amount
    (l, .flag !lost.isEmpty)
  | .append bs => ({ l with toServer := l.toServer ++ bs }, .silent)
  | .deliver =>
    match l.deliver with
    | (l, .ok plain) => (l, .plaintext plain)
    | (l, .error e) => (l, .failed e)
  | .summarize => (l, .summary (Client.summary l.client))

end Link

end RecordLayer.Loopback
