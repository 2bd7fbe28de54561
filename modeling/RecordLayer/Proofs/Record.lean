import RecordLayer.Record

/-!
# The framing of a byte stream

Every byte string is cut into records in one way only: the lengths in the headers say where.

* `Record.frames` are the whole records of a byte string, `Record.remainder` is what follows them;
* `Record.Whole` says that engines find a record to open;
* `Record.prefix_frames`: records that stand at the front of a byte string are the first of its
  frames, whatever follows them;
* `Record.frames_unique`: no other way to cut leaves less than a whole record.
-/

namespace RecordLayer.Record

/-- The length of the record that begins a byte string, whole or not; none before the header is
there. -/
def declared? (bs : Bytes) : Option Nat :=
  match bs with
  | _ :: _ :: _ :: high :: low :: _ => some (headerLength + Bytes.toNat16 high low)
  | _ => none

/-- One whole record and nothing else. -/
def IsRecord (bs : Bytes) : Prop :=
  declared? bs = some bs.length

instance (bs : Bytes) : Decidable (IsRecord bs) :=
  inferInstanceAs (Decidable (_ = _))

theorem headerLength_le_of_declared {bs : Bytes} {length : Nat} (h : declared? bs = some length) :
    headerLength ≤ length := by
  unfold declared? at h
  split at h
  · cases h
    exact Nat.le_add_right _ _
  · cases h

/-- The header alone says the length. -/
theorem declared?_append {bs : Bytes} {length : Nat} (h : declared? bs = some length)
    (rest : Bytes) : declared? (bs ++ rest) = some length := by
  unfold declared? at h
  split at h
  · exact h
  · cases h

theorem declared?_take {bs : Bytes} {length count : Nat} (h : declared? bs = some length)
    (hcount : headerLength ≤ count) : declared? (bs.take count) = some length := by
  obtain ⟨more, rfl⟩ := Nat.exists_eq_add_of_le hcount
  unfold declared? at h
  split at h
  · rw [Nat.add_comm, headerLength]
    exact h
  · cases h

theorem isRecord_take {bs : Bytes} {length : Nat} (h : declared? bs = some length)
    (hlength : length ≤ bs.length) : IsRecord (bs.take length) := by
  rw [IsRecord, declared?_take h (headerLength_le_of_declared h), List.length_take,
    Nat.min_eq_left hlength]

/-- What engines take for a whole record is one. -/
theorem declared?_of_completeLength {bs : Bytes} {length : Nat}
    (h : completeLength bs = .ok (some length)) :
    declared? bs = some length ∧ length ≤ bs.length := by
  unfold completeLength at h
  split at h
  · next type a b high low body =>
    simp only at h
    split at h
    · cases h
    · split at h
      · cases h
      · split at h
        · next hwhole =>
          cases h
          exact ⟨rfl, hwhole⟩
        · cases h
  · cases h

/-- The header that a session sees at the front of a record counts the rest of it. -/
theorem front?_of_isRecord {record : Bytes} (h : IsRecord record) :
    ∃ header body, front? record = some (header, body) ∧ body.length = header.length ∧
      record.length = headerLength + header.length := by
  unfold IsRecord declared? at h
  split at h
  · rw [Option.some.injEq, List.length_cons, List.length_cons, List.length_cons, List.length_cons,
      List.length_cons, headerLength] at h
    refine ⟨_, _, rfl, ?_, ?_⟩
    · show _ = Bytes.toNat16 _ _
      omega
    · show _ = headerLength + Bytes.toNat16 _ _
      simp only [List.length_cons, headerLength]
      omega
  · cases h

theorem front?_append {record body : Bytes} {header : Header}
    (h : front? record = some (header, body)) (rest : Bytes) :
    front? (record ++ rest) = some (header, body ++ rest) := by
  unfold front? at h
  split at h
  · cases h
    rfl
  · cases h

/-- The whole records at the front, one after the other. -/
def frames (bs : Bytes) : List Bytes :=
  match _ : declared? bs with
  | some length => if length ≤ bs.length then bs.take length :: frames (bs.drop length) else []
  | none => []
termination_by bs.length
decreasing_by
  have := headerLength_le_of_declared ‹_›
  simp only [List.length_drop, headerLength] at *
  omega

/-- What follows the last whole record. -/
def remainder (bs : Bytes) : Bytes :=
  bs.drop (frames bs).flatten.length

theorem frames_of_declared {bs : Bytes} {length : Nat} (h : declared? bs = some length)
    (hlength : length ≤ bs.length) :
    frames bs = bs.take length :: frames (bs.drop length) := by
  rw [frames]
  split
  · next found hfound =>
    rw [h, Option.some.injEq] at hfound
    subst hfound
    exact if_pos hlength
  · next hnone =>
    rw [h] at hnone
    cases hnone

/-- A record that engines accept the header of stands whole at the front. -/
def Whole (bs : Bytes) : Prop :=
  ∃ length, completeLength bs = .ok (some length)

instance (bs : Bytes) : Decidable (Whole bs) :=
  match h : completeLength bs with
  | .ok (some length) => .isTrue ⟨length, h⟩
  | .ok none => .isFalse fun ⟨_, hwhole⟩ => by cases h.symm.trans hwhole
  | .error _ => .isFalse fun ⟨_, hwhole⟩ => by cases h.symm.trans hwhole

theorem not_whole {bs : Bytes} (h : completeLength bs = .ok none) : ¬Whole bs := by
  rintro ⟨length, hwhole⟩
  cases h.symm.trans hwhole

theorem frames_of_completeLength {bs : Bytes} {length : Nat}
    (h : completeLength bs = .ok (some length)) :
    frames bs = bs.take length :: frames (bs.drop length) := by
  obtain ⟨hdeclared, hlength⟩ := declared?_of_completeLength h
  exact frames_of_declared hdeclared hlength

theorem Whole.frames_ne_nil {bs : Bytes} (h : Whole bs) : frames bs ≠ [] := by
  obtain ⟨length, h⟩ := h
  rw [frames_of_completeLength h]
  exact List.cons_ne_nil _ _

theorem frames_cons {record : Bytes} (h : IsRecord record) (rest : Bytes) :
    frames (record ++ rest) = record :: frames rest := by
  have hlength : record.length ≤ (record ++ rest).length := by
    rw [List.length_append]
    exact Nat.le_add_right _ _
  rw [frames_of_declared (declared?_append h rest) hlength, List.take_left, List.drop_left]

theorem frames_append {records : List Bytes} (h : ∀ record ∈ records, IsRecord record)
    (rest : Bytes) : frames (records.flatten ++ rest) = records ++ frames rest := by
  induction records with
  | nil => rfl
  | cons record records ih =>
    rw [List.flatten_cons, List.append_assoc, frames_cons (h record List.mem_cons_self),
      ih fun r hr => h r (List.mem_cons_of_mem _ hr), List.cons_append]

theorem prefix_frames {records : List Bytes} {bs : Bytes}
    (h : ∀ record ∈ records, IsRecord record) (hfront : records.flatten <+: bs) :
    records <+: frames bs := by
  obtain ⟨rest, rfl⟩ := hfront
  exact ⟨frames rest, (frames_append h rest).symm⟩

theorem frames_eq_nil {bs : Bytes}
    (h : ∀ length, declared? bs = some length → bs.length < length) : frames bs = [] := by
  rw [frames]
  split
  · next length hdeclared => exact if_neg (Nat.not_le.mpr (h length hdeclared))
  · rfl

theorem frames_unique {records : List Bytes} {bs rest : Bytes}
    (h : ∀ record ∈ records, IsRecord record) (hcut : records.flatten ++ rest = bs)
    (hrest : ∀ length, declared? rest = some length → rest.length < length) :
    records = frames bs := by
  rw [← hcut, frames_append h, frames_eq_nil hrest, List.append_nil]

/-- The frames and what follows them make up the byte string again. -/
theorem flatten_frames (bs : Bytes) :
    (∀ record ∈ frames bs, IsRecord record) ∧ (frames bs).flatten ++ remainder bs = bs := by
  rw [remainder]
  induction bs using frames.induct with
  | case1 bs length h hlength ih =>
    obtain ⟨hrecords, hflatten⟩ := ih
    rw [frames_of_declared h hlength]
    constructor
    · intro record hrecord
      rcases List.mem_cons.mp hrecord with rfl | hrecord
      · exact isRecord_take h hlength
      · exact hrecords record hrecord
    · have htake : (bs.take length).length = length := by
        rw [List.length_take, Nat.min_eq_left hlength]
      rw [List.flatten_cons, List.length_append, htake, ← List.drop_drop, List.append_assoc,
        hflatten, List.take_append_drop]
  | case2 bs length h hlong =>
    have hnone : frames bs = [] := by
      apply frames_eq_nil
      intro found hfound
      rw [h, Option.some.injEq] at hfound
      omega
    rw [hnone]
    exact ⟨nofun, rfl⟩
  | case3 bs h =>
    have hnone : frames bs = [] := by
      apply frames_eq_nil
      intro found hfound
      rw [h] at hfound
      cases hfound
    rw [hnone]
    exact ⟨nofun, rfl⟩

theorem frames_mono {bs stream : Bytes} (h : bs <+: stream) : frames bs <+: frames stream := by
  obtain ⟨hrecords, hflatten⟩ := flatten_frames bs
  exact prefix_frames hrecords (List.IsPrefix.trans ⟨_, hflatten⟩ h)

end RecordLayer.Record
