import RecordLayer.Error.Protocol
import RecordLayer.Wire.Reader

/-!
# Handshake messages

A handshake message is a type, a length of three bytes and a body. Messages follow each other in a
stream that records cut anywhere.

* `Message.split?` takes the first whole message off a stream;
* `Message.exceed` says that a stream announces a message that is too long to wait for.
-/

namespace RecordLayer.Wire

structure Message where
  type : HandshakeType
  body : Bytes := []
  deriving DecidableEq

namespace Message

/-- The longest body that is taken. -/
def maxBody : Nat := 65535

def encode (m : Message) : Bytes :=
  m.type.code :: vector 3 m.body

/-- The first message of a stream, and what follows it. -/
def split? (stream : Bytes) : Option (Message × Bytes) :=
  match stream with
  | type :: top :: high :: low :: rest =>
    let length := toNumber [top, high, low]
    if length ≤ rest.length then some (⟨⟨type⟩, rest.take length⟩, rest.drop length) else none
  | _ => none

/-- Whether a message of the stream is too long. -/
def exceed (stream : Bytes) : Bool :=
  match stream with
  | _ :: top :: high :: low :: rest =>
    let length := toNumber [top, high, low]
    maxBody < length || exceed (rest.drop length)
  | _ => false
termination_by stream.length
decreasing_by
  simp only [List.length_drop, List.length_cons]
  omega

end Message

end RecordLayer.Wire
