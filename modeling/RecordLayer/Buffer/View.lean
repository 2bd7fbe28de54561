import RecordLayer.Buffer

/-!
# What the operations do to a buffer's content

One law for each operation of a buffer and each way to look at it: `held` while the buffer is being
filled, `region` while it is being read, and `WellFormed` at all times.

* `held_put`, `held_resize`: filling appends, and resizing cuts off at the new limit;
* `region_flip`, `held_compact`: turning a buffer around turns one view into the other;
* `region_advance`: reading drops bytes from the front of the region;
* `drain_eq`: draining gives what was held and leaves nothing;
* a `Blank` buffer holds nothing, and `holding` makes one that holds some bytes.
-/

namespace RecordLayer.Buffer

/-! ### Cursors in order -/

theorem wellFormed_fill {b : Buffer} (h : b.WellFormed) (bs : Bytes) : (b.fill bs).WellFormed := by
  obtain ⟨h₁, h₂⟩ := h
  refine ⟨h₁, ?_⟩
  have hfit : b.position + (bs.take b.remaining).length ≤ b.storage.length := by
    simp only [remaining, List.length_take]
    omega
  simp only [fill, Bytes.length_splice hfit]
  exact h₂

theorem wellFormed_advance {b moved : Buffer} {count : Nat} (h : b.WellFormed)
    (hmoved : b.advance? count = some moved) : moved.WellFormed := by
  obtain ⟨h₁, h₂⟩ := h
  rw [advance?] at hmoved
  split at hmoved
  · next hcount =>
    cases hmoved
    rw [remaining] at hcount
    exact ⟨by show b.position + count ≤ b.limit; omega, h₂⟩
  · cases hmoved

theorem capacity_resize {b : Buffer} (h : b.WellFormed) (size : Nat) :
    (b.resize size).capacity = max b.capacity size := by
  rw [resize]
  split
  · next hsize =>
    have hpos : b.position ≤ size := Nat.le_trans (Nat.le_trans h.1 h.2) (Nat.le_of_lt hsize)
    simp only [capacity, List.length_append, length_held h, List.length_replicate] at hsize ⊢
    omega
  · next hsize =>
    simp only [capacity] at hsize ⊢
    omega

theorem le_capacity_resize {b : Buffer} (h : b.WellFormed) (size : Nat) :
    b.capacity ≤ (b.resize size).capacity := by
  rw [capacity_resize h]
  exact Nat.le_max_left _ _

@[simp] theorem limit_resize (b : Buffer) (size : Nat) : (b.resize size).limit = size := by
  rw [resize]
  split <;> rfl

theorem position_resize {b : Buffer} (h : b.WellFormed) (size : Nat) :
    (b.resize size).position = min b.position size := by
  rw [resize]
  split
  · next hsize =>
    exact (Nat.min_eq_left (Nat.le_trans (Nat.le_trans h.1 h.2) (Nat.le_of_lt hsize))).symm
  · rfl

theorem wellFormed_resize {b : Buffer} (h : b.WellFormed) (size : Nat) :
    (b.resize size).WellFormed := by
  constructor
  · rw [position_resize h, limit_resize]
    exact Nat.min_le_right _ _
  · rw [limit_resize]
    have hcap := capacity_resize h size
    simp only [capacity] at hcap
    omega

theorem wellFormed_flip {b : Buffer} (h : b.WellFormed) : b.flip.WellFormed :=
  ⟨Nat.zero_le _, Nat.le_trans h.1 h.2⟩

theorem capacity_compact {b : Buffer} (h : b.WellFormed) : b.compact.capacity = b.capacity := by
  have hregion := length_region h
  obtain ⟨h₁, h₂⟩ := h
  have hfit : 0 + b.region.length ≤ b.storage.length := by
    rw [hregion, remaining]
    omega
  simp only [compact, capacity, Bytes.length_splice hfit]

theorem wellFormed_compact {b : Buffer} (h : b.WellFormed) : b.compact.WellFormed := by
  have hcap := capacity_compact h
  obtain ⟨h₁, h₂⟩ := h
  constructor
  · show b.remaining ≤ b.capacity
    simp only [remaining, capacity]
    omega
  · show b.capacity ≤ b.compact.capacity
    omega

theorem wellFormed_clear (b : Buffer) : b.clear.WellFormed :=
  ⟨Nat.zero_le _, Nat.le_refl _⟩

theorem wellFormed_drain (b : Buffer) : b.drain.2.WellFormed :=
  wellFormed_clear b.flip

/-- The buffer that a put writes to: there is room for all of the bytes. -/
def roomFor (b : Buffer) (count : Nat) : Buffer :=
  if b.remaining < count then b.resize (b.limit + count) else b

theorem put_eq (b : Buffer) (bs : Bytes) :
    b.put bs =
      { b.roomFor bs.length with
        storage := Bytes.splice (b.roomFor bs.length).storage (b.roomFor bs.length).position bs
        position := (b.roomFor bs.length).position + bs.length } := rfl

theorem wellFormed_roomFor {b : Buffer} (h : b.WellFormed) (count : Nat) :
    (b.roomFor count).WellFormed := by
  rw [roomFor]
  split
  · exact wellFormed_resize h _
  · exact h

theorem position_roomFor {b : Buffer} (h : b.WellFormed) (count : Nat) :
    (b.roomFor count).position = b.position := by
  rw [roomFor]
  split
  · rw [position_resize h]
    exact Nat.min_eq_left (Nat.le_trans h.1 (Nat.le_add_right _ _))
  · rfl

theorem le_limit_roomFor {b : Buffer} (h : b.WellFormed) (count : Nat) :
    b.position + count ≤ (b.roomFor count).limit := by
  have h₁ := h.1
  rw [roomFor]
  split
  · rw [limit_resize]
    omega
  · next hroom =>
    rw [remaining] at hroom
    omega

theorem le_length_roomFor {b : Buffer} (h : b.WellFormed) (count : Nat) :
    (b.roomFor count).position + count ≤ (b.roomFor count).storage.length := by
  rw [position_roomFor h]
  exact Nat.le_trans (le_limit_roomFor h count) (wellFormed_roomFor h count).2

theorem wellFormed_put {b : Buffer} (h : b.WellFormed) (bs : Bytes) : (b.put bs).WellFormed := by
  have hpos := position_roomFor h bs.length
  have hlimit := le_limit_roomFor h bs.length
  rw [put_eq]
  constructor
  · show (b.roomFor bs.length).position + bs.length ≤ (b.roomFor bs.length).limit
    omega
  · simp only [Bytes.length_splice (le_length_roomFor h bs.length)]
    exact (wellFormed_roomFor h bs.length).2

/-- Only making room changes the capacity. -/
theorem capacity_put {b : Buffer} (h : b.WellFormed) (bs : Bytes) :
    (b.put bs).capacity = (b.roomFor bs.length).capacity := by
  rw [put_eq, capacity, Bytes.length_splice (le_length_roomFor h bs.length), capacity]

theorem le_capacity_put {b : Buffer} (h : b.WellFormed) (bs : Bytes) :
    b.capacity ≤ (b.put bs).capacity := by
  rw [capacity_put h, roomFor]
  split
  · exact le_capacity_resize h _
  · exact Nat.le_refl _

/-! ### The content of a buffer that is being filled -/

theorem held_resize {b : Buffer} (h : b.WellFormed) (size : Nat) :
    (b.resize size).held = b.held.take size := by
  have hlen := length_held h
  rw [resize]
  split
  · next hsize =>
    have hpos : b.position ≤ size := Nat.le_trans (Nat.le_trans h.1 h.2) (Nat.le_of_lt hsize)
    rw [List.take_of_length_le (by omega), held]
    exact List.take_left' hlen
  · simp only [held, List.take_take]
    rw [Nat.min_comm]

theorem held_roomFor {b : Buffer} (h : b.WellFormed) (count : Nat) :
    (b.roomFor count).held = b.held := by
  rw [roomFor]
  split
  · rw [held_resize h]
    apply List.take_of_length_le
    rw [length_held h]
    exact Nat.le_trans h.1 (Nat.le_add_right _ _)
  · rfl

/-- A put appends, in whatever mode the buffer is. -/
theorem held_put {b : Buffer} (h : b.WellFormed) (bs : Bytes) : (b.put bs).held = b.held ++ bs := by
  have hroom := wellFormed_roomFor h bs.length
  have hpos : (b.roomFor bs.length).position ≤ (b.roomFor bs.length).storage.length :=
    Nat.le_trans hroom.1 hroom.2
  rw [put_eq, ← held_roomFor h bs.length]
  exact Bytes.take_splice hpos

@[simp] theorem held_clear (b : Buffer) : b.clear.held = [] := by
  simp only [clear, held, List.take_zero]

theorem held_compact {b : Buffer} (h : b.WellFormed) : b.compact.held = b.region := by
  have hlen := length_region h
  have htake : (Bytes.splice b.storage 0 b.region).take (0 + b.region.length) =
      b.storage.take 0 ++ b.region := Bytes.take_splice (Nat.zero_le _)
  rw [Nat.zero_add, hlen, List.take_zero, List.nil_append] at htake
  exact htake

@[simp] theorem region_flip (b : Buffer) : b.flip.region = b.held := by
  simp only [region_eq, flip, remaining, held, List.drop_zero, Nat.sub_zero]

theorem remaining_flip {b : Buffer} (h : b.WellFormed) : b.flip.remaining = b.held.length := by
  rw [← length_region (wellFormed_flip h), region_flip]

/-- A buffer without a byte between its cursors has nothing to drain once it is turned around. -/
theorem hasRemaining_flip (b : Buffer) : b.flip.hasRemaining = decide (0 < b.position) := rfl

theorem drain_eq (b : Buffer) :
    b.drain = (if 0 < b.position then some b.held else none, b.flip.clear) := by
  simp only [drain, hasRemaining_flip, decide_eq_true_eq, region_flip]

/-! ### Buffers with room -/

/-- A buffer for filling that holds nothing yet. -/
structure Blank (b : Buffer) : Prop where
  wellFormed : b.WellFormed
  position : b.position = 0

theorem blank_withCapacity (size : Nat) : (withCapacity size).Blank :=
  ⟨wellFormed_withCapacity size, rfl⟩

/-- A buffer that holds some bytes and has room for more. -/
def holding (bs : Bytes) (room : Nat) : Buffer :=
  ⟨bs ++ List.replicate room 0, bs.length, bs.length + room⟩

theorem wellFormed_holding (bs : Bytes) (room : Nat) : (holding bs room).WellFormed := by
  refine ⟨Nat.le_add_right _ _, ?_⟩
  simp only [holding, List.length_append, List.length_replicate, Nat.le_refl]

theorem held_holding (bs : Bytes) (room : Nat) : (holding bs room).held = bs :=
  List.take_left' rfl

theorem remaining_holding (bs : Bytes) (room : Nat) : (holding bs room).remaining = room :=
  Nat.add_sub_cancel_left _ _

/-! ### The content of a buffer that is being read -/

/-- Also when the cursors are beyond the storage. -/
theorem length_region_le (b : Buffer) : b.region.length ≤ b.remaining := by
  rw [region_eq]
  exact List.length_take_le _ _

theorem region_advance {b moved : Buffer} {count : Nat} (hmoved : b.advance? count = some moved) :
    moved.region = b.region.drop count := by
  rw [advance?] at hmoved
  split at hmoved
  · cases hmoved
    simp only [region_eq, remaining, List.drop_take, List.drop_drop]
    congr 1
    omega
  · cases hmoved

theorem advance?_eq_none_iff (b : Buffer) (count : Nat) :
    b.advance? count = none ↔ b.remaining < count := by
  rw [advance?]
  split
  · next hcount => simp only [reduceCtorEq, false_iff]; omega
  · next hcount => simp only [true_iff]; omega

theorem advance?_of_le {b : Buffer} {count : Nat} (h : count ≤ b.remaining) :
    b.advance? count = some { b with position := b.position + count } :=
  if_pos h

theorem region_fill {b : Buffer} (h : b.WellFormed) (bs : Bytes) :
    (b.fill bs).region = Bytes.overlay b.region bs := by
  have hlen := length_region h
  obtain ⟨h₁, h₂⟩ := h
  have hbs : (bs.take b.remaining).length ≤ b.remaining := List.length_take_le _ _
  have hpos : (b.storage.take b.position).length = b.position := by
    rw [List.length_take]
    omega
  have hfill : (b.fill bs).region =
      ((Bytes.splice b.storage b.position (bs.take b.remaining)).drop b.position).take
        b.remaining := region_eq _
  rw [hfill, Bytes.splice, Bytes.overlay, hlen, List.append_assoc, List.drop_left' hpos,
    List.take_append, List.take_of_length_le hbs, region_eq, List.drop_take, List.drop_drop]
  congr 1
  by_cases hfits : bs.length ≤ b.remaining
  · rw [List.take_of_length_le hfits]
  · have hfull : (bs.take b.remaining).length = b.remaining := by
      rw [List.length_take]
      omega
    rw [hfull, Nat.sub_self, List.take_zero, Nat.sub_eq_zero_of_le (by omega), List.take_zero]

end RecordLayer.Buffer
