import RecordLayer.Bytes

/-!
# Encapsulation keys

The public keys of ML-KEM-768: three polynomials of 256 coefficients, packed into 12 bits each, and
a seed. Bytes are a key if they have the length of one and no coefficient reaches the modulus.
-/

namespace RecordLayer.Wire.MlKem768

def modulus : Nat := 3329

/-- The length of the packed coefficients. -/
def packedLength : Nat := 3 * 256 * 12 / 8

def seedLength : Nat := 32

def keyLength : Nat := packedLength + seedLength

/-- The length of an encapsulated secret, which has coefficients of 10 and of 4 bits. -/
def ciphertextLength : Nat := 3 * 256 * 10 / 8 + 256 * 4 / 8

/-- Two coefficients stand in three bytes, with the least bits first. -/
def coefficients : Bytes → List Nat
  | first :: middle :: last :: rest =>
    (first.toNat + 256 * (middle.toNat % 16)) :: (middle.toNat / 16 + 16 * last.toNat) ::
      coefficients rest
  | _ => []

def isPublicKey (bs : Bytes) : Bool :=
  bs.length == keyLength && (coefficients (bs.take packedLength)).all (· < modulus)

example : coefficients [0x01, 0x2d, 0xd0] = [0xd01, 0xd02] := by decide

end RecordLayer.Wire.MlKem768
