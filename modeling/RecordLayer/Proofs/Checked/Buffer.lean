import RecordLayer.Proofs.Flow

/-!
# Buffers with every index checked

The operations of a buffer once more, step by step and on a machine with numbers of 64 bits. They
come to nothing as soon as a sum is too large, a difference is negative, a stretch does not lie in
the storage, what is copied has another length than the stretch, a position is moved beyond the
limit, or the cursors get out of order.

* `plus`, `minus`, `slice`, `copy` and `ordered` are the checks;
* `Buffer.Sound` is what makes them succeed, and each operation with its checks then does just what
  it does without them: `region_eq`, `advance_eq`, `put_eq` and so on;
* `Buffer.onto` is a buffer with another storage. Only what lies below the limit matters for what is
  read, so `Buffer.Backs` is enough for `region_onto` and `advance_onto`.
-/

namespace RecordLayer

/-- The first number that a machine word cannot hold. -/
def wordLimit : Nat := UInt64.size

/-- The cursors are in order, and the capacity is a number that a word can hold. -/
structure Buffer.Sound (b : Buffer) : Prop where
  wellFormed : b.WellFormed
  fits : b.capacity < wordLimit

namespace Checked

/-! ### Checks -/

def plus (a b : Nat) : Option Nat :=
  if a + b < wordLimit then some (a + b) else none

def minus (a b : Nat) : Option Nat :=
  if b ≤ a then some (a - b) else none

/-- The bytes from one index to another. -/
def slice (s : Bytes) (start stop : Nat) : Option Bytes :=
  if start ≤ stop ∧ stop ≤ s.length then some ((s.drop start).take (stop - start)) else none

/-- Copies over the bytes from one index to another. -/
def copy (s : Bytes) (start stop : Nat) (bs : Bytes) : Option Bytes :=
  if start ≤ stop ∧ stop ≤ s.length ∧ bs.length = stop - start then some (Bytes.splice s start bs)
  else none

/-- Hands on a buffer whose cursors are in order. -/
def ordered (b : Buffer) : Option Buffer :=
  if b.WellFormed then some b else none

theorem plus_eq {a b : Nat} (h : a + b < wordLimit) : plus a b = some (a + b) :=
  if_pos h

theorem minus_eq {a b : Nat} (h : b ≤ a) : minus a b = some (a - b) :=
  if_pos h

theorem slice_eq {s : Bytes} {start stop : Nat} (h : start ≤ stop) (hstop : stop ≤ s.length) :
    slice s start stop = some ((s.drop start).take (stop - start)) :=
  if_pos ⟨h, hstop⟩

theorem copy_eq {s bs : Bytes} {start : Nat} (h : start + bs.length ≤ s.length) :
    copy s start (start + bs.length) bs = some (Bytes.splice s start bs) :=
  if_pos ⟨Nat.le_add_right _ _, h, (Nat.add_sub_cancel_left _ _).symm⟩

theorem ordered_eq {b : Buffer} (h : b.WellFormed) : ordered b = some b :=
  if_pos h

/-! ### Operations -/

def remaining (b : Buffer) : Option Nat :=
  minus b.limit b.position

def region (b : Buffer) : Option Bytes :=
  slice b.storage b.position b.limit

/-- What an engine writes over the front of the region that it is given. -/
def fill (b : Buffer) (bs : Bytes) : Option Buffer := do
  let given ← region b
  let written := bs.take given.length
  let storage ← copy b.storage b.position (b.position + written.length) written
  ordered { b with storage }

def advance (b : Buffer) (count : Nat) : Option Buffer := do
  let room ← remaining b
  if count ≤ room then
    let position ← plus b.position count
    ordered { b with position }
  else
    none

def resize (b : Buffer) (size : Nat) : Option Buffer :=
  if b.capacity < size then do
    let kept ← slice b.storage 0 b.position
    let storage ← copy (List.replicate size 0) 0 b.position kept
    ordered { storage, position := b.position, limit := size }
  else
    ordered { b with limit := size, position := min b.position size }

/-- Makes the limit larger if there is less room than asked for. -/
def roomFor (b : Buffer) (count : Nat) : Option Buffer := do
  let room ← remaining b
  if room < count then
    let size ← plus b.limit count
    resize b size
  else
    some b

def put (b : Buffer) (bs : Bytes) : Option Buffer := do
  let roomy ← roomFor b bs.length
  let stop ← plus roomy.position bs.length
  let storage ← copy roomy.storage roomy.position stop bs
  ordered { roomy with storage, position := stop }

def flip (b : Buffer) : Option Buffer :=
  ordered b.flip

def clear (b : Buffer) : Option Buffer :=
  ordered b.clear

def compact (b : Buffer) : Option Buffer := do
  let unread ← remaining b
  let bs ← slice b.storage b.position b.limit
  let storage ← copy b.storage 0 unread bs
  ordered { storage, position := unread, limit := b.capacity }

def drain (b : Buffer) : Option (Option Bytes × Buffer) := do
  let full ← flip b
  if full.hasRemaining then
    let bs ← region full
    let empty ← clear full
    some (some bs, empty)
  else
    let empty ← clear full
    some (none, empty)

variable {b : Buffer}

theorem remaining_eq (h : b.WellFormed) : remaining b = some b.remaining :=
  minus_eq h.1

theorem region_eq (h : b.WellFormed) : region b = some b.region := by
  rw [region, slice_eq h.1 h.2, Buffer.region_eq, Buffer.remaining]

theorem fill_eq (h : b.WellFormed) (bs : Bytes) : fill b bs = some (b.fill bs) := by
  have hlen := Buffer.length_region h
  have hfit : b.position + (bs.take b.remaining).length ≤ b.storage.length := by
    obtain ⟨h₁, h₂⟩ := h
    simp only [Buffer.remaining, List.length_take]
    omega
  simp only [fill, region_eq h, hlen, copy_eq hfit, Option.bind_eq_bind, Option.bind_some]
  exact ordered_eq (Buffer.wellFormed_fill h bs)

theorem advance_eq (h : b.WellFormed) (hlimit : b.limit < wordLimit) {count : Nat} {moved : Buffer}
    (hmoved : b.advance? count = some moved) : advance b count = some moved := by
  have hcount := Buffer.le_remaining_of_advance hmoved
  have hsum : b.position + count < wordLimit := by
    rw [Buffer.remaining] at hcount
    have := h.1
    omega
  have hwf := Buffer.wellFormed_advance h hmoved
  rw [Buffer.advance?_of_le hcount, Option.some.injEq] at hmoved
  subst hmoved
  simp only [advance, remaining_eq h, if_pos hcount, plus_eq hsum, Option.bind_eq_bind,
    Option.bind_some]
  exact ordered_eq hwf

/-- The position is compared with the limit before it moves. -/
theorem advance_eq_none (h : b.WellFormed) {count : Nat} (hover : b.remaining < count) :
    advance b count = none := by
  simp only [advance, remaining_eq h, if_neg (Nat.not_le.mpr hover), Option.bind_eq_bind,
    Option.bind_some]

theorem resize_eq (h : b.WellFormed) (size : Nat) : resize b size = some (b.resize size) := by
  have hwf := Buffer.wellFormed_resize h size
  rw [resize]
  rw [Buffer.resize] at hwf ⊢
  split
  · next hsize =>
    rw [if_pos hsize] at hwf
    have hpos : b.position ≤ b.storage.length := Nat.le_trans h.1 h.2
    have hheld : (b.storage.drop 0).take (b.position - 0) = b.held := rfl
    have hlen : b.held.length = b.position := Buffer.length_held h
    have hfit : 0 + b.held.length ≤ (List.replicate size (0 : UInt8)).length := by
      rw [Buffer.capacity] at hsize
      rw [hlen, List.length_replicate]
      omega
    have hcopy := copy_eq hfit
    rw [hlen, Nat.zero_add] at hcopy
    have hstorage : Bytes.splice (List.replicate size 0) 0 b.held =
        b.held ++ List.replicate (size - b.position) 0 := by
      rw [Bytes.splice, hlen, List.take_zero, List.nil_append, List.drop_replicate, Nat.zero_add]
    simp only [slice_eq (Nat.zero_le _) hpos, hheld, hcopy, hstorage, Option.bind_eq_bind,
      Option.bind_some]
    exact ordered_eq hwf
  · next hsize =>
    rw [if_neg hsize] at hwf
    exact ordered_eq hwf

/-- A limit that is made larger has to be a number that a word can hold. -/
theorem roomFor_eq (h : b.WellFormed) {count : Nat}
    (hfits : b.remaining < count → b.limit + count < wordLimit) :
    roomFor b count = some (b.roomFor count) := by
  rw [roomFor, Buffer.roomFor, remaining_eq h, Option.bind_eq_bind, Option.bind_some]
  split
  · next hgrows =>
    rw [plus_eq (hfits hgrows), Option.bind_some]
    exact resize_eq h _
  · rfl

theorem put_eq (h : b.WellFormed) (hlimit : b.limit < wordLimit) {bs : Bytes}
    (hfits : b.remaining < bs.length → b.limit + bs.length < wordLimit) :
    put b bs = some (b.put bs) := by
  have hwf := Buffer.wellFormed_put h bs
  have hstop : (b.roomFor bs.length).position + bs.length < wordLimit := by
    have hpos := h.1
    rw [Buffer.position_roomFor h]
    rcases Nat.lt_or_ge b.remaining bs.length with hgrows | hroom
    · have := hfits hgrows
      omega
    · rw [Buffer.remaining] at hroom
      omega
  rw [Buffer.put_eq] at hwf ⊢
  simp only [put, roomFor_eq h hfits, plus_eq hstop, copy_eq (Buffer.le_length_roomFor h bs.length),
    Option.bind_eq_bind, Option.bind_some]
  exact ordered_eq hwf

theorem flip_eq (h : b.WellFormed) : flip b = some b.flip :=
  ordered_eq (Buffer.wellFormed_flip h)

theorem clear_eq (b : Buffer) : clear b = some b.clear :=
  ordered_eq (Buffer.wellFormed_clear b)

theorem compact_eq (h : b.WellFormed) : compact b = some b.compact := by
  have hlen := Buffer.length_region h
  have hfit : 0 + b.region.length ≤ b.storage.length := by
    obtain ⟨h₁, h₂⟩ := h
    rw [hlen, Buffer.remaining]
    omega
  have hcopy := copy_eq hfit
  rw [hlen, Nat.zero_add] at hcopy
  have hregion : slice b.storage b.position b.limit = some b.region := region_eq h
  simp only [compact, remaining_eq h, hregion, hcopy, Option.bind_eq_bind, Option.bind_some]
  exact ordered_eq (Buffer.wellFormed_compact h)

theorem drain_eq (h : b.WellFormed) : drain b = some b.drain := by
  have hflip := Buffer.wellFormed_flip h
  simp only [drain, Buffer.drain, flip_eq h, region_eq hflip, clear_eq, Option.bind_eq_bind,
    Option.bind_some]
  split <;> rfl

end Checked

/-! ### Capacities -/

namespace Buffer

variable {b : Buffer}

theorem Sound.limit (h : b.Sound) : b.limit < wordLimit :=
  Nat.lt_of_le_of_lt h.wellFormed.2 h.fits

theorem sound_withCapacity {n : Nat} (h : n < wordLimit) : (withCapacity n).Sound :=
  ⟨wellFormed_withCapacity n, by rw [capacity, withCapacity, List.length_replicate]; exact h⟩

theorem sound_ofBytes {bs : Bytes} (h : bs.length < wordLimit) : (ofBytes bs).Sound :=
  ⟨wellFormed_ofBytes bs, h⟩

theorem Sound.flip (h : b.Sound) : b.flip.Sound :=
  ⟨wellFormed_flip h.wellFormed, h.fits⟩

theorem Sound.clear (h : b.Sound) : b.clear.Sound :=
  ⟨wellFormed_clear b, h.fits⟩

theorem Sound.compact (h : b.Sound) : b.compact.Sound :=
  ⟨wellFormed_compact h.wellFormed, by rw [capacity_compact h.wellFormed]; exact h.fits⟩

theorem Sound.fill (h : b.Sound) (bs : Bytes) : (b.fill bs).Sound :=
  ⟨wellFormed_fill h.wellFormed bs, by rw [capacity_fill h.wellFormed]; exact h.fits⟩

theorem Sound.resize (h : b.Sound) {size : Nat} (hsize : size < wordLimit) :
    (b.resize size).Sound := by
  refine ⟨wellFormed_resize h.wellFormed size, ?_⟩
  rw [capacity_resize h.wellFormed]
  exact Nat.max_lt.mpr ⟨h.fits, hsize⟩

theorem Sound.put (h : b.Sound) {bs : Bytes}
    (hfits : b.remaining < bs.length → b.limit + bs.length < wordLimit) : (b.put bs).Sound := by
  refine ⟨wellFormed_put h.wellFormed bs, ?_⟩
  rw [capacity_put h.wellFormed, roomFor]
  split
  · next hgrows => exact (h.resize (hfits hgrows)).fits
  · exact h.fits

theorem Sound.reads {bs : Bytes} {left : Buffer} (h : b.Sound) (hreads : b.Reads bs left) :
    left.Sound :=
  ⟨hreads.wellFormed h.wellFormed, by rw [Buffer.capacity, hreads.storage]; exact h.fits⟩

theorem Sound.advance {count : Nat} {moved : Buffer} (h : b.Sound)
    (hmoved : b.advance? count = some moved) : moved.Sound :=
  h.reads (.of_advance h.wellFormed hmoved)

/-! ### Another storage -/

/-- The buffer with another storage. -/
def onto (storage : Bytes) (b : Buffer) : Buffer :=
  { b with storage }

/-- The storage is as good as that of the buffer, as far as the limit. -/
structure Backs (storage : Bytes) (b : Buffer) : Prop where
  limit : b.limit ≤ storage.length
  front : storage.take b.limit = b.storage.take b.limit

variable {storage : Bytes}

theorem Backs.wellFormed (hb : Backs storage b) (h : b.WellFormed) : (b.onto storage).WellFormed :=
  ⟨h.1, hb.limit⟩

theorem Backs.region (hb : Backs storage b) : (b.onto storage).region = b.region := by
  rw [region_eq, region_eq, remaining, remaining, ← List.drop_take, ← List.drop_take, ← hb.front]
  rfl

theorem Backs.advance {count : Nat} {moved : Buffer} (hb : Backs storage b)
    (hmoved : b.advance? count = some moved) :
    Backs storage moved ∧ (b.onto storage).advance? count = some (moved.onto storage) := by
  rw [advance?] at hmoved
  split at hmoved
  · next hcount =>
    cases hmoved
    exact ⟨⟨hb.limit, hb.front⟩, if_pos hcount⟩
  · cases hmoved

theorem Backs.refl (h : b.WellFormed) : Backs b.storage b :=
  ⟨h.2, rfl⟩

end Buffer

end RecordLayer
