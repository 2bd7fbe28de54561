import RecordLayer.Buffer.Command
import RecordLayer.Proofs.Checked.Buffer

/-!
# Buffers in any mode

A buffer does not know whether it is being filled or read. So every operation has to keep the
cursors in order and to stay inside the storage wherever the cursors are, also when a buffer is
written to while it is being read, or is turned around twice.

* `Checked.perform` is a command with every index checked;
* `Command.Affords` says that an allocation, if the command needs one, has a size that a word can
  hold, and `Command.AllAfford` says it of a history;
* `Command.Safe` is what a command does to a buffer, and `Command.safe` shows it for one command on
  whatever buffer whose cursors are in order;
* `Command.sound_runAll` keeps such a buffer through a history, and `Command.safe_in_any_mode` puts
  both together.
-/

namespace RecordLayer

/-- A command with every index checked; nothing if a check fails. -/
def Checked.perform (b : Buffer) : Buffer.Command → Option (Buffer.Reply × Buffer)
  | .put bs => do
    let left ← put b bs
    return (.silent, left)
  | .advance count => do
    let left ← advance b count
    return (.silent, left)
  | .resize size => do
    let left ← resize b size
    return (.silent, left)
  | .flip => do
    let left ← flip b
    return (.silent, left)
  | .compact => do
    let left ← compact b
    return (.silent, left)
  | .clear => do
    let left ← clear b
    return (.silent, left)
  | .clone => some (.silent, b)
  | .drain => do
    let (taken, left) ← drain b
    return (.payload taken, left)
  | .peek => do
    let bs ← region b
    return (.payload (some bs), b)
  | .fill bs => do
    let room ← remaining b
    let left ← fill b bs
    return (.count (min bs.length room), left)
  | .describe => some (.text b.describe, b)

namespace Buffer

variable {b : Buffer}

/-- How a buffer comes into being: with some room, or with bytes that are to be read. -/
inductive Made : Buffer → Prop where
  | withCapacity (n : Nat) (h : n < wordLimit) : Made (withCapacity n)
  | ofBytes (bs : Bytes) (h : bs.length < wordLimit) : Made (ofBytes bs)

theorem Made.sound (h : b.Made) : b.Sound := by
  cases h with
  | withCapacity n h => exact sound_withCapacity h
  | ofBytes bs h => exact sound_ofBytes h

namespace Command

/-- The allocation that a command needs, if it needs one, has a size that a word can hold. -/
def Affords (b : Buffer) : Command → Prop
  | put bs => b.remaining < bs.length → b.limit + bs.length < wordLimit
  | resize size => size < wordLimit
  | _ => True

/-- So does every command of a history. -/
def AllAfford : Buffer → List Command → Prop
  | _, [] => True
  | b, command :: later => command.Affords b ∧ AllAfford (command.run b).2 later

instance (b : Buffer) (command : Command) : Decidable (command.Affords b) :=
  match command with
  | put bs =>
    inferInstanceAs (Decidable (b.remaining < bs.length → b.limit + bs.length < wordLimit))
  | resize size => inferInstanceAs (Decidable (size < wordLimit))
  | advance _ | flip | compact | clear | clone | drain | peek | fill _ | describe =>
    inferInstanceAs (Decidable True)

/-- What a command does to a buffer, whatever its mode is. -/
structure Safe (b : Buffer) (command : Command) : Prop where
  wellFormed : (command.run b).2.WellFormed
  capacity : b.capacity ≤ (command.run b).2.capacity
  /-- No check fails but the one against advancing too far. -/
  fails : Checked.perform b command = none ↔ ∃ count, command = advance count ∧ b.remaining < count
  /-- Where no check fails, the result is the one that there would be without them. -/
  performs : ∀ result, Checked.perform b command = some result → result = command.run b
  unchanged : ∀ count, command = advance count → b.remaining < count →
    command.run b = (.overrun count b.remaining, b)
  appends : ∀ bs, command = put bs → (command.run b).2.held = b.held ++ bs

/-! ### One command -/

variable {command : Command}

theorem run_advance {count : Nat} (h : count ≤ b.remaining) :
    ∃ moved, b.advance? count = some moved ∧ (advance count).run b = (.silent, moved) :=
  ⟨_, advance?_of_le h, by rw [run, advance?_of_le h]⟩

theorem run_advance_overrun {count : Nat} (hover : b.remaining < count) :
    (advance count).run b = (.overrun count b.remaining, b) := by
  rw [run, (advance?_eq_none_iff b count).mpr hover]

theorem sound_run (h : b.Sound) (hafford : command.Affords b) : (command.run b).2.Sound := by
  cases command with
  | put bs => exact h.put hafford
  | advance count =>
    rcases Nat.lt_or_ge b.remaining count with hover | hcount
    · rw [run_advance_overrun hover]
      exact h
    · obtain ⟨moved, hmoved, hrun⟩ := run_advance hcount
      rw [hrun]
      exact h.advance hmoved
  | resize size => exact h.resize hafford
  | flip => exact h.flip
  | compact => exact h.compact
  | clear => exact h.clear
  | drain => exact h.flip.clear
  | fill bs => exact h.fill bs
  | clone | peek | describe => exact h

theorem le_capacity_run (h : b.WellFormed) (command : Command) :
    b.capacity ≤ (command.run b).2.capacity := by
  cases command with
  | put bs => exact le_capacity_put h bs
  | advance count =>
    rcases Nat.lt_or_ge b.remaining count with hover | hcount
    · simp only [run_advance_overrun hover, Nat.le_refl]
    · obtain ⟨moved, hmoved, hrun⟩ := run_advance hcount
      rw [hrun]
      exact (Gains.of_advance h hmoved).capacity
  | resize size => exact le_capacity_resize h size
  | compact => exact Nat.le_of_eq (capacity_compact h).symm
  | fill bs => exact Nat.le_of_eq (capacity_fill h bs).symm
  | flip | clear | drain | clone | peek | describe => exact Nat.le_refl _

/-- No check fails, if the position is not moved too far. -/
theorem perform_eq (h : b.Sound) (hafford : command.Affords b)
    (hcount : ∀ count, command = advance count → count ≤ b.remaining) :
    Checked.perform b command = some (command.run b) := by
  have hwf := h.wellFormed
  cases command with
  | put bs => rw [Checked.perform, Checked.put_eq hwf h.limit hafford]; rfl
  | advance count =>
    obtain ⟨moved, hmoved, hrun⟩ := run_advance (hcount count rfl)
    rw [Checked.perform, Checked.advance_eq hwf h.limit hmoved, hrun]
    rfl
  | resize size => rw [Checked.perform, Checked.resize_eq hwf]; rfl
  | flip => rw [Checked.perform, Checked.flip_eq hwf]; rfl
  | compact => rw [Checked.perform, Checked.compact_eq hwf]; rfl
  | clear => rw [Checked.perform, Checked.clear_eq]; rfl
  | drain => rw [Checked.perform, Checked.drain_eq hwf]; rfl
  | peek => rw [Checked.perform, Checked.region_eq hwf]; rfl
  | fill bs => rw [Checked.perform, Checked.remaining_eq hwf, Checked.fill_eq hwf]; rfl
  | clone | describe => rfl

theorem perform_advance_overrun (h : b.WellFormed) {count : Nat} (hover : b.remaining < count) :
    Checked.perform b (advance count) = none := by
  rw [Checked.perform, Checked.advance_eq_none h hover]
  rfl

theorem perform_eq_none_iff (h : b.Sound) (hafford : command.Affords b) :
    Checked.perform b command = none ↔
      ∃ count, command = advance count ∧ b.remaining < count := by
  constructor
  · intro hnone
    -- any other command would have been performed
    refine Classical.byContradiction fun hlegal => ?_
    have hperform := perform_eq h hafford fun count hadvance =>
      Nat.le_of_not_lt fun hover => hlegal ⟨count, hadvance, hover⟩
    rw [hnone] at hperform
    cases hperform
  · rintro ⟨count, rfl, hover⟩
    exact perform_advance_overrun h.wellFormed hover

theorem safe (h : b.Sound) (hafford : command.Affords b) : command.Safe b where
  wellFormed := (sound_run h hafford).wellFormed
  capacity := le_capacity_run h.wellFormed command
  fails := perform_eq_none_iff h hafford
  performs := by
    intro result hresult
    have hlegal : ∀ count, command = advance count → count ≤ b.remaining := by
      rintro count rfl
      refine Nat.le_of_not_lt fun hover => ?_
      rw [perform_advance_overrun h.wellFormed hover] at hresult
      cases hresult
    rw [perform_eq h hafford hlegal] at hresult
    exact (Option.some.inj hresult).symm
  unchanged := by
    rintro count rfl hover
    exact run_advance_overrun hover
  appends := by
    rintro bs rfl
    exact held_put h.wellFormed bs

/-! ### Histories -/

theorem allAfford_append {earlier later : List Command} :
    AllAfford b (earlier ++ later) ↔
      AllAfford b earlier ∧ AllAfford (runAll b earlier) later := by
  induction earlier generalizing b with
  | nil => exact (true_and _).to_iff.symm
  | cons command rest ih => rw [List.cons_append, AllAfford, ih, AllAfford, and_assoc]; rfl

theorem sound_runAll (h : b.Sound) {commands : List Command} (hafford : AllAfford b commands) :
    (runAll b commands).Sound := by
  induction commands generalizing b with
  | nil => exact h
  | cons command later ih => exact ih (sound_run h hafford.1) hafford.2

/-- After every history each command keeps the buffer in order, whatever mode the commands before
it have left the buffer in. -/
theorem safe_in_any_mode {start : Buffer} (hmade : start.Made) {earlier : List Command}
    {command : Command} (hafford : AllAfford start (earlier ++ [command])) :
    command.Safe (runAll start earlier) := by
  obtain ⟨hearlier, hcommand, -⟩ := allAfford_append.mp hafford
  exact safe (sound_runAll hmade.sound hearlier) hcommand

/-- A buffer is written to while it is being read, turned around twice, cut off, and asked to move
its position as far as a word can say; then it is written to again. -/
theorem safe_of_mixed_modes :
    let start := ofBytes [1, 2, 3]
    let earlier := [advance 1, put [7, 8, 9], flip, flip, resize 2, advance (wordLimit - 1)]
    start.Made ∧ AllAfford start (earlier ++ [put [5, 6, 7]]) ∧
      (put [5, 6, 7]).Safe (runAll start earlier) := by
  intro start earlier
  have hmade : start.Made := .ofBytes _ (by decide)
  have hafford : AllAfford start (earlier ++ [put [5, 6, 7]]) := by
    refine ⟨?_, ?_, ?_, ?_, ?_, ?_, ?_, trivial⟩ <;> decide
  exact ⟨hmade, hafford, safe_in_any_mode hmade hafford⟩

end Command

end Buffer

end RecordLayer
