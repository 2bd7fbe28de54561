import RecordLayer.Version
import RecordLayer.Wire.MlKem
import RecordLayer.Wire.Reader

/-!
# Key exchange groups

The groups in which both sides make their keys, and which bytes are public keys of them: a point of
the curve that is not lost when it is multiplied. The hybrid group joins a curve with an
encapsulated secret.
-/

namespace RecordLayer.Wire

/-- A curve `y² = x³ - 3x + b` over the integers modulo `p`, in coordinates of so many bytes. -/
structure Curve where
  width : Nat
  p : Nat
  b : Nat
  deriving DecidableEq

namespace Curve

def p256 : Curve where
  width := 32
  p := 0xffffffff00000001000000000000000000000000ffffffffffffffffffffffff
  b := 0x5ac635d8aa3a93e7b3ebbd55769886bc651d06b0cc53b0f63bce3c3e27d2604b

def p384 : Curve where
  width := 48
  p := 0xfffffffffffffffffffffffffffffffffffffffffffffffffffffffffffffffeffffffff0000000000000000ffffffff
  b := 0xb3312fa7e23ee7e4988e056be3f82d19181d9c6efe8141120314088f5013875ac656398d8a2ed19d2a85c8edd3ec2aef

def contains (c : Curve) (x y : Nat) : Bool :=
  x < c.p && y < c.p && (y * y + 3 * x) % c.p == (x * x * x + c.b) % c.p

/-- The first byte of a point that is written with both coordinates. -/
def uncompressed : UInt8 := 4

def isPoint (c : Curve) (bs : Bytes) : Bool :=
  match bs with
  | form :: coordinates =>
    form == uncompressed && coordinates.length == 2 * c.width &&
      c.contains (toNumber (coordinates.take c.width)) (toNumber (coordinates.drop c.width))
  | [] => false

end Curve

/-! ### The groups -/

inductive Group where
  | x25519
  | secp256r1
  | secp384r1
  /-- The hybrid group, in which the two keys stand one after the other. -/
  | x25519MlKem768
  deriving DecidableEq

namespace Group

def code : Group → Nat
  | x25519 => 0x001d
  | secp256r1 => 0x0017
  | secp384r1 => 0x0018
  | x25519MlKem768 => 0x11ec

/-- The groups of curves, in order of preference. -/
def curves : List Group :=
  [x25519, secp256r1, secp384r1]

/-- Whether keys of a version are exchanged in the group. -/
def belongsTo : TlsVersion → Group → Bool
  | .tls12, g => g != x25519MlKem768
  | .tls13, _ => true

/-- The length of the public key that begins an exchange. -/
def keyLength : Group → Nat
  | x25519 => 32
  | secp256r1 => 1 + 2 * Curve.p256.width
  | secp384r1 => 1 + 2 * Curve.p384.width
  | x25519MlKem768 => MlKem768.keyLength + 32

/-- The length of the key that answers; an encapsulated secret takes the place of a key for it. -/
def answerLength : Group → Nat
  | x25519MlKem768 => MlKem768.ciphertextLength + 32
  | g => g.keyLength

/-- The modulus of `x25519`. -/
def modulus : Nat :=
  0x7fffffffffffffffffffffffffffffffffffffffffffffffffffffffffffffed

/-- The coordinates of the points of small order: the shared secret would always be zero. -/
def smallOrder : List Nat :=
  [0, 1, 325606250916557431795983626356110631294008115727848805560023387167927233504,
   39382357235489614581723060781553021112529911719440698176882885853963445705823, modulus - 1]

/-- The bit of a written coordinate that does not count. -/
def spareBit : Nat :=
  0x8000000000000000000000000000000000000000000000000000000000000000

/-- Coordinates are written with the least byte first. -/
def isCoordinate (bs : Bytes) : Bool :=
  bs.length == 32 && !smallOrder.contains (toNumber bs.reverse % spareBit % modulus)

/-- Whether bytes are a public key of the group. -/
def isPublicKey : Group → Bytes → Bool
  | x25519, bs => isCoordinate bs
  | secp256r1, bs => Curve.p256.isPoint bs
  | secp384r1, bs => Curve.p384.isPoint bs
  | x25519MlKem768, bs =>
    MlKem768.isPublicKey (bs.take MlKem768.keyLength) &&
      isCoordinate (bs.drop MlKem768.keyLength)

end Group

end RecordLayer.Wire
