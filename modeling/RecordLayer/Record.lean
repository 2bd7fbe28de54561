import RecordLayer.Bytes
import RecordLayer.Error.Protocol

/-!
# Records

A record is a five-byte header and a body. The header holds the content type, the protocol version
and the length of the body, most significant byte first.

* `Record.completeLength` looks at the front of a byte string: it gives the length of the record
  that stands there whole, nothing when more bytes have to come, or what is wrong with the header.
* `Record.front?` and `Record.Header.fault?` are the stricter look of a session, which also minds
  the version, and takes bodies a little shorter.
-/

namespace RecordLayer.Record

def headerLength : Nat := 5

/-- The longest plaintext of a record. -/
def maxPlaintext : Nat := 16384

/-- The longest body of a record: a plaintext with what its protection may add. -/
def maxBody : Nat := maxPlaintext + 2048

/-- The longest record. -/
def maxLength : Nat := headerLength + maxBody

/-- The length of the record at the front, if it is there whole. -/
def completeLength (bs : Bytes) : Except ProtocolError (Option Nat) :=
  match bs with
  | type :: _ :: _ :: high :: low :: _ =>
    let body := Bytes.toNat16 high low
    if (ContentType.ofCode? type).isNone then .error (.invalidMessage .invalidContentType)
    else if maxBody < body then .error .oversizedRecord
    else .ok (if headerLength + body ≤ bs.length then some (headerLength + body) else none)
  | _ => .ok none

/-- The header of a record. -/
def header (type major minor : UInt8) (length : Nat) : Bytes :=
  [type, major, minor] ++ Bytes.ofNat16 length

/-! ### Records as sessions see them -/

structure Header where
  type : UInt8
  major : UInt8
  minor : UInt8
  length : Nat
  deriving DecidableEq

/-- The header at the front, and the bytes after it. -/
def front? (bs : Bytes) : Option (Header × Bytes) :=
  match bs with
  | type :: major :: minor :: high :: low :: rest =>
    some (⟨type, major, minor, Bytes.toNat16 high low⟩, rest)
  | _ => none

namespace Header

/-- The version numbers outside of TLS that are known all the same: an older protocol, and the same
protocol over datagrams. -/
def otherVersions : List (UInt8 × UInt8) :=
  [(0x00, 0x02), (0xfe, 0xff), (0xfe, 0xfd), (0xfe, 0xfc)]

/-- Versions of TLS need not be known, their major number is enough. -/
def isVersion (major minor : UInt8) : Bool :=
  major == 3 || otherVersions.contains (major, minor)

/-- What a session has against a record with the header. -/
def fault? (h : Header) : Option Corruption :=
  if (ContentType.ofCode? h.type).isNone then some .invalidContentType
  else if !isVersion h.major h.minor then some .unknownProtocolVersion
  else if h.length = 0 ∧ h.type ≠ ContentType.applicationData.code then some .emptyPayload
  else if maxBody ≤ h.length then some .messageTooLarge
  else none

end Header

end RecordLayer.Record
