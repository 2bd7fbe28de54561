import RecordLayer.Buffer.View
import RecordLayer.Trace

/-!
# The flow of bytes

Bytes pass through a buffer in two ways: reading takes them from the front of the region, filling
adds them behind what is held. A trace tells which bytes these are.

* `Buffer.Reads` and `Buffer.Gains` say what reading and filling do to a buffer; each holds of two
  steps in a row if it holds of either;
* `consumed` and `produced` gather what the accepted calls of one direction took and gave;
* `ReadsFrom` says that every call of a direction is given what the earlier ones left of a stream.
-/

namespace RecordLayer

namespace Buffer

/-- The position has moved over `bs`, the front of the region, and nothing else has changed. -/
structure Reads (b : Buffer) (bs : Bytes) (left : Buffer) : Prop where
  storage : left.storage = b.storage
  limit : left.limit = b.limit
  position : left.position = b.position + bs.length
  region : b.region = bs ++ left.region

/-- `bs` was added behind what is held, and the storage has not become smaller. -/
structure Gains (b : Buffer) (bs : Bytes) (left : Buffer) : Prop where
  wellFormed : left.WellFormed
  held : left.held = b.held ++ bs
  capacity : b.capacity ≤ left.capacity

theorem Reads.refl (b : Buffer) : b.Reads [] b :=
  ⟨rfl, rfl, rfl, rfl⟩

theorem Reads.trans {a b c : Buffer} {xs ys : Bytes} (h : a.Reads xs b) (h' : b.Reads ys c) :
    a.Reads (xs ++ ys) c where
  storage := h'.storage.trans h.storage
  limit := h'.limit.trans h.limit
  position := by rw [h'.position, h.position, List.length_append, Nat.add_assoc]
  region := by rw [h.region, h'.region, List.append_assoc]

theorem Reads.region_eq_drop {b left : Buffer} {bs : Bytes} (h : b.Reads bs left) :
    left.region = b.region.drop bs.length := by
  rw [h.region, List.drop_left]

theorem Reads.wellFormed {b left : Buffer} {bs : Bytes} (h : b.Reads bs left)
    (hb : b.WellFormed) : left.WellFormed := by
  have hlen := length_region hb
  rw [h.region, List.length_append, remaining] at hlen
  have hpos := h.position
  have hlimit := h.limit
  obtain ⟨h₁, h₂⟩ := hb
  constructor
  · omega
  · rw [h.limit, h.storage]
    exact h₂

theorem Reads.held_eq {b left : Buffer} (h : b.Reads [] left) : left.held = b.held := by
  rw [held, held, h.storage, h.position]
  rfl

theorem Gains.refl {b : Buffer} (hb : b.WellFormed) : b.Gains [] b :=
  ⟨hb, (List.append_nil _).symm, Nat.le_refl _⟩

theorem Gains.trans {a b c : Buffer} {xs ys : Bytes} (h : a.Gains xs b) (h' : b.Gains ys c) :
    a.Gains (xs ++ ys) c where
  wellFormed := h'.wellFormed
  held := by rw [h'.held, h.held, List.append_assoc]
  capacity := Nat.le_trans h.capacity h'.capacity

theorem le_remaining_of_advance {b left : Buffer} {count : Nat}
    (h : b.advance? count = some left) : count ≤ b.remaining := by
  rw [advance?] at h
  split at h
  · next hcount => exact hcount
  · cases h

theorem remaining_advance {b left : Buffer} {count : Nat} (h : b.advance? count = some left) :
    left.remaining = b.remaining - count := by
  rw [advance?] at h
  split at h
  · cases h
    exact Nat.sub_add_eq _ _ _
  · cases h

theorem Reads.of_advance {b left : Buffer} {count : Nat} (hb : b.WellFormed)
    (h : b.advance? count = some left) : b.Reads (b.region.take count) left := by
  have hregion := region_advance h
  rw [advance?] at h
  split at h
  · next hcount =>
    cases h
    have hlen : (b.region.take count).length = count := by
      rw [List.length_take, length_region hb, Nat.min_eq_left hcount]
    refine ⟨rfl, rfl, by rw [hlen], ?_⟩
    rw [hregion, List.take_append_drop]
  · cases h

theorem capacity_fill {b : Buffer} (hb : b.WellFormed) (bs : Bytes) :
    (b.fill bs).capacity = b.capacity := by
  obtain ⟨h₁, h₂⟩ := hb
  have hfit : b.position + (bs.take b.remaining).length ≤ b.storage.length := by
    simp only [remaining, List.length_take]
    omega
  exact Bytes.length_splice hfit

theorem held_fill {b : Buffer} (hb : b.WellFormed) (bs : Bytes) : (b.fill bs).held = b.held := by
  have hpos : (b.storage.take b.position).length = b.position := length_held hb
  show (Bytes.splice b.storage b.position _).take b.position = b.held
  rw [Bytes.splice, List.append_assoc, List.take_left' hpos, held]

theorem Gains.of_fill {b : Buffer} (hb : b.WellFormed) (bs : Bytes) : b.Gains [] (b.fill bs) where
  wellFormed := wellFormed_fill hb bs
  held := by rw [held_fill hb, List.append_nil]
  capacity := Nat.le_of_eq (capacity_fill hb bs).symm

theorem held_advance {b left : Buffer} {count : Nat} (h : b.advance? count = some left) :
    left.held = b.held ++ b.region.take count := by
  rw [advance?] at h
  split at h
  · next hcount =>
    cases h
    rw [held, held, region_eq, List.take_take, Nat.min_eq_left hcount]
    exact List.take_add
  · cases h

theorem Gains.of_advance {b left : Buffer} {count : Nat} (hb : b.WellFormed)
    (h : b.advance? count = some left) : b.Gains (b.region.take count) left where
  wellFormed := wellFormed_advance hb h
  held := held_advance h
  capacity := by
    rw [advance?] at h
    split at h
    · cases h
      exact Nat.le_refl _
    · cases h

/-- What was filled in and then passed over is held. -/
theorem Gains.of_fill_advance {b left : Buffer} (hb : b.WellFormed) {bs : Bytes}
    (hroom : bs.length ≤ b.remaining) (h : (b.fill bs).advance? bs.length = some left) :
    b.Gains bs left := by
  have hfill := wellFormed_fill hb bs
  have hfront : (b.fill bs).region.take bs.length = bs := by
    rw [region_fill hb, Bytes.overlay, length_region hb, List.take_of_length_le hroom]
    exact List.take_left' rfl
  have hgains := (Gains.of_fill hb bs).trans (.of_advance hfill h)
  rw [hfront] at hgains
  exact hgains

/-- Resizing to at least the position keeps all that is held. -/
theorem Gains.of_resize {b : Buffer} (hb : b.WellFormed) {size : Nat} (hsize : b.position ≤ size) :
    b.Gains [] (b.resize size) where
  wellFormed := wellFormed_resize hb size
  held := by
    rw [held_resize hb, List.append_nil]
    apply List.take_of_length_le
    rw [length_held hb]
    exact hsize
  capacity := le_capacity_resize hb size

/-! ### Buffers that are empty or drained -/

theorem held_eq_nil {b : Buffer} (h : b.position = 0) : b.held = [] := by
  rw [held, h, List.take_zero]

theorem region_eq_nil {b : Buffer} (h : b.hasRemaining = false) : b.region = [] := by
  rw [hasRemaining, decide_eq_false_iff_not] at h
  rw [region_eq, remaining, Nat.sub_eq_zero_of_le (by omega), List.take_zero]

theorem region_ne_nil {b : Buffer} (hb : b.WellFormed) (h : b.hasRemaining = true) :
    b.region ≠ [] := by
  rw [hasRemaining, decide_eq_true_eq] at h
  rw [← List.length_pos_iff, length_region hb, remaining]
  omega

theorem drain_of_empty {b : Buffer} (h : b.position = 0) : b.drain = (none, b.flip.clear) := by
  rw [drain_eq, h]
  rfl

/-- What is held comes out whole. -/
theorem drain_of_held {b : Buffer} (hb : b.WellFormed) (h : b.held ≠ []) :
    b.drain.1 = some b.held := by
  have hpos : 0 < b.position := by
    rw [← length_held hb, List.length_pos_iff]
    exact h
  rw [drain_eq, if_pos hpos]

/-- Draining gives the content, or nothing if there is none. -/
theorem drain_fst {b : Buffer} (hb : b.WellFormed) :
    b.drain.1 = if b.held = [] then none else some b.held := by
  by_cases h : b.held = []
  · have hzero : b.position = 0 := by
      rw [← length_held hb, h, List.length_nil]
    rw [drain_of_empty hzero, if_pos h]
  · rw [drain_of_held hb h, if_neg h]

theorem drain_getD {b : Buffer} (hb : b.WellFormed) : b.drain.1.getD [] = b.held := by
  rw [drain_fst hb]
  split
  · next h => rw [h, Option.getD_none]
  · rfl

theorem held_drain (b : Buffer) : b.drain.2.held = [] :=
  held_clear b.flip

theorem position_drain (b : Buffer) : b.drain.2.position = 0 := rfl

end Buffer

/-! ### What the calls of a trace took and gave -/

/-- The source bytes that the accepted calls of a direction took, in order. -/
def consumed (direction : Direction) (cs : List Call) : Bytes :=
  (cs.filter (·.direction = direction)).flatMap Call.consumed

/-- The destination bytes that the accepted calls of a direction gave, in order. -/
def produced (direction : Direction) (cs : List Call) : Bytes :=
  (cs.filter (·.direction = direction)).flatMap Call.produced

section

variable (direction : Direction) (xs ys : List Call)

@[simp] theorem consumed_nil : consumed direction [] = [] := rfl

@[simp] theorem produced_nil : produced direction [] = [] := rfl

@[simp] theorem consumed_append :
    consumed direction (xs ++ ys) = consumed direction xs ++ consumed direction ys := by
  simp only [consumed, List.filter_append, List.flatMap_append]

@[simp] theorem produced_append :
    produced direction (xs ++ ys) = produced direction xs ++ produced direction ys := by
  simp only [produced, List.filter_append, List.flatMap_append]

end

theorem consumed_singleton (c : Call) : consumed c.direction [c] = c.consumed := by
  simp [consumed]

theorem produced_singleton (c : Call) : produced c.direction [c] = c.produced := by
  simp [produced]

/-- The count of source bytes that a call reported, accepted or not. -/
def Call.reported (c : Call) : Nat :=
  match c.report with
  | .ok r => r.consumed
  | .error _ => 0

/-- The sum of the counts that the calls of a direction reported. -/
def reported (direction : Direction) : List Call → Nat
  | [] => 0
  | c :: cs => (if c.direction = direction then c.reported else 0) + reported direction cs

@[simp] theorem reported_append (direction : Direction) (xs ys : List Call) :
    reported direction (xs ++ ys) = reported direction xs + reported direction ys := by
  induction xs with
  | nil => exact (Nat.zero_add _).symm
  | cons c cs ih => rw [List.cons_append, reported, reported, ih, Nat.add_assoc]

theorem Call.report_of_accepted? {c : Call} {r : Report} (h : c.accepted? = some r) :
    c.report = .ok r := by
  rw [accepted?] at h
  split at h
  · next r' hreport =>
    split at h
    · cases h
      exact hreport
    · cases h
  · cases h

theorem Call.consumed_eq_nil {c : Call} (h : c.reported = 0) : c.consumed = [] := by
  cases haccepted : c.accepted? with
  | none => rw [consumed, haccepted]
  | some r =>
    rw [reported, report_of_accepted? haccepted] at h
    have hcount : r.consumed = 0 := h
    rw [consumed, haccepted]
    simp only [hcount, List.take_zero]

theorem Call.counts_of_accepted? {c : Call} {r : Report} (h : c.accepted? = some r) :
    r.consumed ≤ c.source.length ∧ r.produced ≤ c.room := by
  rw [accepted?] at h
  split at h
  · split at h
    · next hcounts =>
      cases h
      exact hcounts
    · cases h
  · cases h

/-- The count of source bytes that a call reported, if it was accepted. -/
def Call.taken (c : Call) : Nat :=
  match c.accepted? with
  | some r => r.consumed
  | none => 0

theorem Call.length_consumed (c : Call) : c.consumed.length = c.taken := by
  cases haccepted : c.accepted? with
  | none => rw [consumed, taken, haccepted, List.length_nil]
  | some r =>
    rw [consumed, taken, haccepted, List.length_take]
    exact Nat.min_eq_left (counts_of_accepted? haccepted).1

/-- The sum of the counts that the accepted calls of a direction reported. -/
def taken (direction : Direction) : List Call → Nat
  | [] => 0
  | c :: cs => (if c.direction = direction then c.taken else 0) + taken direction cs

theorem length_consumed (direction : Direction) (cs : List Call) :
    (consumed direction cs).length = taken direction cs := by
  induction cs with
  | nil => rfl
  | cons c cs ih =>
    rw [taken, ← ih, ← c.length_consumed]
    by_cases hdirection : c.direction = direction
    · rw [if_pos hdirection, consumed, List.filter_cons_of_pos (by simpa using hdirection),
        List.flatMap_cons, List.length_append]
      rfl
    · rw [if_neg hdirection, consumed, List.filter_cons_of_neg (by simpa using hdirection),
        Nat.zero_add]
      rfl

/-- No wrap among the calls reports that it has consumed a byte. -/
def WrapsTakeNothing (cs : List Call) : Prop :=
  ∀ c ∈ cs, c.direction = .wrap → c.reported = 0

instance (cs : List Call) : Decidable (WrapsTakeNothing cs) :=
  inferInstanceAs (Decidable (∀ c ∈ cs, c.direction = .wrap → c.reported = 0))

theorem WrapsTakeNothing.consumed_eq_nil {cs : List Call} (h : WrapsTakeNothing cs) :
    consumed .wrap cs = [] := by
  rw [consumed, List.flatMap_eq_nil_iff]
  intro c hc
  obtain ⟨hmem, hwrap⟩ := List.mem_filter.mp hc
  exact Call.consumed_eq_nil (h c hmem (of_decide_eq_true hwrap))

/-- All calls have one direction. -/
def Directed (direction : Direction) (cs : List Call) : Prop :=
  ∀ c ∈ cs, c.direction = direction

theorem Directed.append {direction : Direction} {xs ys : List Call} (h : Directed direction xs)
    (h' : Directed direction ys) : Directed direction (xs ++ ys) := by
  intro c hc
  rcases List.mem_append.mp hc with hc | hc
  · exact h c hc
  · exact h' c hc

theorem Directed.filter_ne {direction other : Direction} {cs : List Call}
    (h : Directed direction cs) (hne : direction ≠ other) :
    cs.filter (·.direction = other) = [] := by
  rw [List.filter_eq_nil_iff]
  intro c hc
  rw [h c hc, decide_eq_true_eq]
  exact hne

theorem Directed.consumed_ne {direction other : Direction} {cs : List Call}
    (h : Directed direction cs) (hne : direction ≠ other) : consumed other cs = [] := by
  rw [consumed, h.filter_ne hne, List.flatMap_nil]

theorem Directed.produced_ne {direction other : Direction} {cs : List Call}
    (h : Directed direction cs) (hne : direction ≠ other) : produced other cs = [] := by
  rw [produced, h.filter_ne hne, List.flatMap_nil]

theorem Directed.reported_ne {direction other : Direction} {cs : List Call}
    (h : Directed direction cs) (hne : direction ≠ other) : reported other cs = 0 := by
  induction cs with
  | nil => rfl
  | cons c cs ih =>
    rw [Directed, List.forall_mem_cons] at h
    rw [reported, h.1, if_neg hne, ih h.2]

/-- Every call of the direction is given what the accepted ones before it left of a stream. -/
def ReadsFrom (direction : Direction) (stream : Bytes) (cs : List Call) : Prop :=
  ∀ earlier call later, cs = earlier ++ call :: later → call.direction = direction →
    call.source = stream.drop (consumed direction earlier).length

theorem readsFrom_nil (direction : Direction) (stream : Bytes) : ReadsFrom direction stream [] := by
  intro earlier call later h
  simp at h

theorem readsFrom_singleton {direction : Direction} {stream : Bytes} {call : Call}
    (h : call.source = stream) : ReadsFrom direction stream [call] := by
  intro earlier c later hsplit _
  rcases List.singleton_eq_append_iff.mp hsplit with ⟨rfl, hc⟩ | ⟨-, hc⟩
  · cases hc
    exact h
  · cases hc

theorem Directed.readsFrom_ne {direction other : Direction} {cs : List Call}
    (h : Directed direction cs) (hne : direction ≠ other) (stream : Bytes) :
    ReadsFrom other stream cs := by
  intro earlier call later hsplit hcall
  have hmem : call ∈ cs := by
    rw [hsplit]
    exact List.mem_append_right _ List.mem_cons_self
  exact absurd ((h call hmem).symm.trans hcall) hne

/-- Where the first calls stop reading, the next ones go on. -/
theorem ReadsFrom.append {direction : Direction} {stream : Bytes} {xs ys : List Call}
    (hxs : ReadsFrom direction stream xs)
    (hys : ReadsFrom direction (stream.drop (consumed direction xs).length) ys) :
    ReadsFrom direction stream (xs ++ ys) := by
  intro earlier call later hsplit hcall
  rcases List.append_eq_append_iff.mp hsplit with ⟨more, rfl, hmore⟩ | ⟨more, rfl, hmore⟩
  · rw [hys more call later hmore hcall, consumed_append, List.length_append, List.drop_drop]
  · cases more with
    | nil =>
      rw [List.nil_append] at hmore
      rw [hys [] call later hmore.symm hcall, consumed_nil, List.length_nil, List.drop_zero,
        List.append_nil]
    | cons first rest =>
      rw [List.cons_append, List.cons.injEq] at hmore
      obtain ⟨rfl, -⟩ := hmore
      exact hxs earlier call rest rfl hcall

end RecordLayer
