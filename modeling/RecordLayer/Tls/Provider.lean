import RecordLayer.Bytes
import RecordLayer.Error.Protocol

/-!
# TLS sessions

What a TLS implementation offers for one session of a server. It takes records in, processes them,
hands out plaintext, takes plaintext to protect, and queues output that has to be flushed. A session
type `ρ` with these answers is all that `Tls.engine` needs.
-/

namespace RecordLayer.Tls

/-- What a session knows after processing its input. -/
structure Progress where
  /-- The number of decrypted bytes that wait to be read. -/
  plaintext : Nat
  /-- Whether the peer has announced the end of its data. -/
  peerClosed : Bool
  deriving DecidableEq

/-- The outcome of reading plaintext into a region. -/
inductive PlaintextRead where
  | bytes (bs : Bytes)
  | wouldBlock
  | failed (text : String)
  deriving DecidableEq

structure Provider (ρ : Type) where
  wantsWrite : ρ → Bool
  isHandshaking : ρ → Bool
  /-- Takes bytes of a record, and says how many. -/
  feed : ρ → Bytes → ρ × Except String Nat
  /-- Processes what was taken. -/
  process : ρ → ρ × Except ProtocolError Progress
  /-- Reads plaintext into a region of the given length. -/
  readPlaintext : ρ → Nat → ρ × PlaintextRead
  /-- Takes plaintext to protect, and says how much. -/
  writePlaintext : ρ → Bytes → ρ × Except String Nat
  /-- Moves queued output into a region of the given length. -/
  flush : ρ → Nat → ρ × Except String Bytes
  peerCertificates : ρ → Option (List Bytes)

end RecordLayer.Tls
