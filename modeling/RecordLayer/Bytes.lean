/-!
# Byte strings

Storage, payloads and wires are all plain lists of bytes. The operations here are the few that
lists do not have already:

* `Bytes.splice` writes over a stretch of a byte string, `Bytes.overlay` over its front;
* `Bytes.ofNat16` and `Bytes.toNat16` are the two-byte big-endian lengths of record headers;
* `Bytes.digest` is the 64-bit Fowler-Noll-Vo hash (variant 1a).
-/

namespace RecordLayer

/-- A byte string. -/
abbrev Bytes := List UInt8

namespace Bytes

/-- Where there is room, some of the bytes are taken. -/
theorem take_ne_nil {bs : Bytes} (h : bs ≠ []) {room : Nat} (hroom : 0 < room) :
    bs.take room ≠ [] :=
  mt List.take_eq_nil_iff.mp (not_or.mpr ⟨Nat.ne_of_gt hroom, h⟩)

/-- Writes `bs` over `s` from index `start` on. -/
def splice (s : Bytes) (start : Nat) (bs : Bytes) : Bytes :=
  s.take start ++ bs ++ s.drop (start + bs.length)

theorem length_splice {s bs : Bytes} {start : Nat} (h : start + bs.length ≤ s.length) :
    (splice s start bs).length = s.length := by
  simp only [splice, List.length_append, List.length_take, List.length_drop]
  omega

theorem take_splice {s bs : Bytes} {start : Nat} (h : start ≤ s.length) :
    (splice s start bs).take (start + bs.length) = s.take start ++ bs := by
  have hlen : (s.take start ++ bs).length = start + bs.length := by
    rw [List.length_append, List.length_take, Nat.min_eq_left h]
  rw [splice, List.take_append_of_le_length (Nat.le_of_eq hlen.symm),
    List.take_of_length_le (Nat.le_of_eq hlen)]

/-- Writes `bs` over the front of `s`; what does not fit is dropped. -/
def overlay (s bs : Bytes) : Bytes :=
  bs.take s.length ++ s.drop bs.length

/-- The last two bytes of a number, most significant first. -/
def ofNat16 (n : Nat) : Bytes :=
  [UInt8.ofNat (n / 256), UInt8.ofNat n]

/-- The number that two bytes write, most significant first. -/
def toNat16 (high low : UInt8) : Nat :=
  high.toNat * 256 + low.toNat

/-- The last eight bytes of a number, most significant first. -/
def ofNat64 (n : Nat) : Bytes :=
  [56, 48, 40, 32, 24, 16, 8, 0].map fun shift => UInt8.ofNat (n >>> shift)

/-- Continues a hash over more bytes. -/
def digestFrom (seed : UInt64) (bs : Bytes) : UInt64 :=
  bs.foldl (fun h b => (h ^^^ b.toUInt64) * 0x100000001b3) seed

/-- The 64-bit Fowler-Noll-Vo hash, variant 1a. -/
def digest (bs : Bytes) : UInt64 :=
  digestFrom 0xcbf29ce484222325 bs

end Bytes

end RecordLayer
