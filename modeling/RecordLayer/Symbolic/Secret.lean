import RecordLayer.Wire.Message

/-!
# Symbolic secrets

Without cryptography there are no secrets, only values that both sides come to in the same way. Keys
and proofs are digests of the handshake, so two sides that saw different messages do not understand
each other.

* `Transcript` is the digest of the handshake messages so far;
* `derive` stretches a digest to as many bytes as a field has.
-/

namespace RecordLayer.Symbolic

inductive Role where
  | client
  | server
  deriving DecidableEq

namespace Role

def code : Role → UInt8
  | client => 1
  | server => 2

def other : Role → Role
  | client => server
  | server => client

end Role

/-- Bytes that a label and a seed determine. -/
def derive (label : String) (seed : Bytes) (length : Nat) : Bytes :=
  let start := Bytes.ofNat64 (Bytes.digest (label.toUTF8.toList ++ seed)).toNat
  let blocks := (List.range (length / 8 + 1)).flatMap fun i =>
    Bytes.ofNat64 (Bytes.digest (start ++ Bytes.ofNat16 i)).toNat
  blocks.take length

/-- The digest of the handshake messages of both sides, in order. -/
structure Transcript where
  digest : UInt64
  deriving DecidableEq

namespace Transcript

def empty : Transcript :=
  ⟨Bytes.digest []⟩

def add (t : Transcript) (m : Wire.Message) : Transcript :=
  ⟨Bytes.digestFrom t.digest m.encode⟩

def toBytes (t : Transcript) : Bytes :=
  Bytes.ofNat64 t.digest.toNat

/-- What a side says at the end to prove that it saw the handshake. -/
def verifyData (t : Transcript) (sender : Role) (length : Nat) : Bytes :=
  derive "finished" (sender.code :: t.toBytes) length

end Transcript

/-- The random bytes of a side's hello; the number tells its sessions apart. -/
def helloRandom (sender : Role) (number : Nat) : Bytes :=
  derive "random" (sender.code :: Bytes.ofNat64 number) 32

/-- A side's public key, of so many bytes. -/
def publicKey (sender : Role) (length : Nat) : Bytes :=
  derive "key share" [sender.code] length

end RecordLayer.Symbolic
