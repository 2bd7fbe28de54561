import RecordLayer.Bytes

/-!
# The growable cursor buffer

A buffer is a storage with two cursors. While it is being filled, the bytes held are those below
`position` and `limit` is the end of the room; `flip` turns it around for reading, and then the
bytes still to be read lie between `position` and `limit`.

* `Buffer.region` is the stretch between the cursors, which engines read from and write to;
* `Buffer.held` is the content of a buffer that is being filled;
* `Buffer.WellFormed` says that the cursors are in order and inside the storage.

Growing keeps only what lies below `position`: a buffer that still has unread bytes loses them.
-/

namespace RecordLayer

/-- A storage with a position and a limit. -/
structure Buffer where
  storage : Bytes
  position : Nat
  limit : Nat
  deriving DecidableEq, Inhabited

namespace Buffer

/-- The cursors are in order and inside the storage. -/
def WellFormed (b : Buffer) : Prop :=
  b.position ≤ b.limit ∧ b.limit ≤ b.storage.length

instance (b : Buffer) : Decidable b.WellFormed :=
  inferInstanceAs (Decidable (_ ∧ _))

/-- An empty buffer with room for `n` bytes. -/
def withCapacity (n : Nat) : Buffer :=
  ⟨List.replicate n 0, 0, n⟩

/-- A buffer whose bytes are all still to be read. -/
def ofBytes (bs : Bytes) : Buffer :=
  ⟨bs, 0, bs.length⟩

theorem wellFormed_withCapacity (n : Nat) : (withCapacity n).WellFormed := by
  simp [WellFormed, withCapacity]

theorem wellFormed_ofBytes (bs : Bytes) : (ofBytes bs).WellFormed := by
  simp [WellFormed, ofBytes]

def capacity (b : Buffer) : Nat :=
  b.storage.length

def remaining (b : Buffer) : Nat :=
  b.limit - b.position

def hasRemaining (b : Buffer) : Bool :=
  b.position < b.limit

/-- The bytes between the cursors. Nothing is copied when they reach to the end of the storage. -/
def region (b : Buffer) : Bytes :=
  let above := b.storage.drop b.position
  if above.length ≤ b.remaining then above else above.take b.remaining

theorem region_eq (b : Buffer) : b.region = (b.storage.drop b.position).take b.remaining := by
  rw [region]
  split
  · next hshort => exact (List.take_of_length_le hshort).symm
  · rfl

/-- The bytes below the position: the content of a buffer that is being filled. -/
def held (b : Buffer) : Bytes :=
  b.storage.take b.position

theorem length_region {b : Buffer} (h : b.WellFormed) : b.region.length = b.remaining := by
  obtain ⟨h₁, h₂⟩ := h
  simp only [region_eq, remaining, List.length_take, List.length_drop]
  omega

theorem length_held {b : Buffer} (h : b.WellFormed) : b.held.length = b.position := by
  obtain ⟨h₁, h₂⟩ := h
  simp only [held, List.length_take]
  omega

@[simp] theorem region_ofBytes (bs : Bytes) : (ofBytes bs).region = bs := by
  simp [region_eq, ofBytes, remaining]

@[simp] theorem held_withCapacity (n : Nat) : (withCapacity n).held = [] := by
  simp [held, withCapacity]

/-! ### Operations -/

/-- Writes over the front of the region without moving a cursor; what does not fit is dropped. -/
def fill (b : Buffer) (bs : Bytes) : Buffer :=
  { b with storage := Bytes.splice b.storage b.position (bs.take b.remaining) }

/-- Moves the position over `count` bytes of the region, if it has as many. -/
def advance? (b : Buffer) (count : Nat) : Option Buffer :=
  if count ≤ b.remaining then some { b with position := b.position + count } else none

/-- Sets the limit. Beyond the storage this takes a new storage of that size with the bytes below
the position; below the position it pulls the position down. -/
def resize (b : Buffer) (size : Nat) : Buffer :=
  if b.capacity < size then
    { storage := b.held ++ List.replicate (size - b.position) 0
      position := b.position
      limit := size }
  else
    { b with limit := size, position := min b.position size }

/-- Appends at the position, after making the limit larger by the length of `bs` when the region is
too short. -/
def put (b : Buffer) (bs : Bytes) : Buffer :=
  let roomy := if b.remaining < bs.length then b.resize (b.limit + bs.length) else b
  { roomy with
    storage := Bytes.splice roomy.storage roomy.position bs
    position := roomy.position + bs.length }

/-- Turns a filled buffer around for reading. -/
def flip (b : Buffer) : Buffer :=
  { b with position := 0, limit := b.position }

/-- Moves the unread bytes to the front and turns the buffer around for filling behind them. -/
def compact (b : Buffer) : Buffer :=
  { storage := Bytes.splice b.storage 0 b.region
    position := b.remaining
    limit := b.capacity }

/-- Forgets the content; the storage stays as it is. -/
def clear (b : Buffer) : Buffer :=
  { b with position := 0, limit := b.capacity }

/-- Takes out what a filled buffer holds: nothing when it holds no byte. -/
def drain (b : Buffer) : Option Bytes × Buffer :=
  let full := b.flip
  (if full.hasRemaining then some full.region else none, full.clear)

/-! ### Written form -/

/-- The buffer as shown in diagnostics, with its whole storage. -/
def describe (b : Buffer) : String :=
  "GrowableBuffer \x7b storage: [" ++ ", ".intercalate (b.storage.map fun c => toString c.toNat) ++
    "], position: " ++ toString b.position ++ ", limit: " ++ toString b.limit ++ " \x7d"

end Buffer

end RecordLayer
