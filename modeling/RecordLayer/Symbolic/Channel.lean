import RecordLayer.CipherSuite
import RecordLayer.Record
import RecordLayer.Symbolic.Secret

/-!
# Symbolic record protection

A channel protects the records of one sender. A protected body carries its plaintext in the open,
followed by a tag that binds it to the sender, to the handshake that made the keys, to the place in
the sequence and to the content type. So a changed, repeated, dropped or reordered record is noticed
as it would be by real protection, and bodies have the lengths of real ones.

* `Channel.protect` makes a record, `Channel.open?` undoes it or refuses.
-/

namespace RecordLayer.Symbolic

/-- The handshake of TLS 1.3 has keys of its own. -/
inductive Epoch where
  | handshake
  | application
  deriving DecidableEq

def Epoch.code : Epoch → UInt8
  | handshake => 1
  | application => 2

structure Channel where
  sender : Role
  epoch : Epoch
  version : TlsVersion
  bulk : BulkCipher
  /-- The handshake that the keys were made from. -/
  source : Transcript
  sequence : Nat := 0
  deriving DecidableEq

namespace Channel

def tagLength : Nat := 16

/-- The tag of a plaintext under a header, at the channel's place in the sequence. -/
def tag (ch : Channel) (header plain : Bytes) : Bytes :=
  let context :=
    [ch.sender.code, ch.epoch.code] ++ ch.source.toBytes ++ Bytes.ofNat64 ch.sequence ++ header
  let first := Bytes.ofNat64 (Bytes.digest (context ++ plain)).toNat
  first ++ Bytes.ofNat64 (Bytes.digest (first ++ context)).toNat

/-- The part of the nonce that a record shows. -/
def shownNonce (ch : Channel) : Bytes :=
  match ch.version, ch.bulk with
  | .tls12, .aesGcm => Bytes.ofNat64 ch.sequence
  | _, _ => []

/-- What the tag binds of a header: TLS 1.2 protects it, in TLS 1.3 it does not matter. -/
def boundHeader (ch : Channel) (type major minor : UInt8) : Bytes :=
  match ch.version with
  | .tls12 => [type, major, minor]
  | .tls13 => []

def next (ch : Channel) : Channel :=
  { ch with sequence := ch.sequence + 1 }

/-- The record that protects a plaintext. In TLS 1.3 all protected records look like application
data, and the content type stands behind the plaintext. -/
def protect (ch : Channel) (type : UInt8) (plain : Bytes) : Bytes :=
  let (outer, inner) : UInt8 × Bytes :=
    match ch.version with
    | .tls12 => (type, plain)
    | .tls13 => (ContentType.applicationData.code, plain ++ [type])
  let body := ch.shownNonce ++ inner ++ ch.tag (ch.boundHeader type 3 3) inner
  Record.header outer 3 3 body.length ++ body

/-- The content type and the plaintext of a protected record. -/
def open? (ch : Channel) (type major minor : UInt8) (body : Bytes) : Option (UInt8 × Bytes) :=
  let nonce := ch.shownNonce
  let sealed := body.drop nonce.length
  let inner := sealed.take (sealed.length - tagLength)
  let given := sealed.drop (sealed.length - tagLength)
  if sealed.length < tagLength then none
  else if body.take nonce.length == nonce &&
      given == ch.tag (ch.boundHeader type major minor) inner then
    match ch.version with
    | .tls12 => some (type, inner)
    | .tls13 => inner.getLast?.map fun innerType => (innerType, inner.dropLast)
  else
    none

end Channel

end RecordLayer.Symbolic
