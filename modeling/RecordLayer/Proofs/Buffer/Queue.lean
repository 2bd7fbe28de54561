import RecordLayer.Buffer.Command
import RecordLayer.Proofs.Flow

/-!
# A buffer that is being filled is a queue of bytes

Between two commands that leave it to be filled, all that can be seen of a buffer is `held`, the
bytes below its position. Whatever its limit is and whatever lies above the position, it then does
what a plain list of bytes does.

* `Filling` is what may be done to such a buffer; `Filling.run` does it to a buffer, and
  `Filling.queue` says what becomes of the list;
* `seen_run` is one command, `seen_history` a history of any length;
* `seen_history_resize`: what a shrinking limit has cut off has no influence on anything later.
-/

namespace RecordLayer.Buffer

/-! ### The bytes that are read -/

/-- Turns the buffer around, reads `count` bytes and moves the others to the front. -/
def consume? (b : Buffer) (count : Nat) : Option (Bytes × Buffer) :=
  (b.flip.advance? count).map fun moved => (b.flip.region.take count, moved.compact)

variable {b : Buffer}

theorem consume?_eq_none (h : b.WellFormed) {count : Nat} (hcount : b.held.length < count) :
    b.consume? count = none := by
  rw [← remaining_flip h] at hcount
  rw [consume?, (advance?_eq_none_iff _ _).mpr hcount, Option.map_none]

/-- The bytes that are read come from the front of what is held, and the others stay. -/
theorem exists_consume? (h : b.WellFormed) {count : Nat} (hcount : count ≤ b.held.length) :
    ∃ left : Buffer, b.consume? count = some (b.held.take count, left) ∧
      left.WellFormed ∧ left.held = b.held.drop count := by
  rw [← remaining_flip h] at hcount
  have hmoved := advance?_of_le hcount
  have hwf := wellFormed_advance (wellFormed_flip h) hmoved
  refine ⟨_, ?_, wellFormed_compact hwf, ?_⟩
  · rw [consume?, hmoved, Option.map_some, region_flip]
  · rw [held_compact hwf, region_advance hmoved, region_flip]

/-! ### Commands -/

/-- What leaves a buffer to be filled. -/
inductive Filling where
  | put (bs : Bytes)
  | resize (size : Nat)
  | consume (count : Nat)
  | clear
  | clone
  | drain
  deriving DecidableEq

namespace Filling

/-- What a command does to a buffer; nothing if it is to read more than the buffer holds. -/
def run (b : Buffer) : Filling → Option (Reply × Buffer)
  | put bs => some ((Command.put bs).run b)
  | resize size => some ((Command.resize size).run b)
  | consume count => (b.consume? count).map fun (read, left) => (.payload (some read), left)
  | clear => some (Command.clear.run b)
  | clone => some (Command.clone.run b)
  | drain => some (Command.drain.run b)

/-- What a command does to a queue of bytes. -/
def queue (m : Bytes) : Filling → Option (Reply × Bytes)
  | put bs => some (.silent, m ++ bs)
  | resize size => some (.silent, m.take size)
  | consume count =>
    if count ≤ m.length then some (.payload (some (m.take count)), m.drop count) else none
  | clear => some (.silent, [])
  | clone => some (.silent, m)
  | drain => some (.payload (if m = [] then none else some m), [])

/-- The replies to the commands of a history, and what they leave. -/
def history {σ : Type} (step : σ → Filling → Option (Reply × σ)) :
    σ → List Filling → Option (List Reply × σ)
  | s, [] => some ([], s)
  | s, command :: later => do
    let (reply, next) ← step s command
    let (replies, last) ← history step next later
    return (reply :: replies, last)

/-- The buffer at the end is seen by its content only. -/
def seen {α : Type} (outcome : Option (α × Buffer)) : Option (α × Bytes) :=
  outcome.map (Prod.map id held)

end Filling

/-! ### One command -/

namespace Filling

theorem wellFormed_run (h : b.WellFormed) {command : Filling} {reply : Reply} {left : Buffer}
    (hrun : command.run b = some (reply, left)) : left.WellFormed := by
  cases command with
  | put bs =>
    cases hrun
    exact wellFormed_put h bs
  | resize size =>
    cases hrun
    exact wellFormed_resize h size
  | consume count =>
    rcases Nat.lt_or_ge b.held.length count with hover | hcount
    · rw [run, consume?_eq_none h hover] at hrun
      cases hrun
    · obtain ⟨kept, hconsume, hkept, -⟩ := exists_consume? h hcount
      rw [run, hconsume] at hrun
      cases hrun
      exact hkept
  | clear =>
    cases hrun
    exact wellFormed_clear b
  | clone =>
    cases hrun
    exact h
  | drain =>
    cases hrun
    exact wellFormed_drain b

/-- A command replies what it would reply on a queue, and is refused where it would be there. -/
theorem seen_run (h : b.WellFormed) (command : Filling) :
    seen (command.run b) = command.queue b.held := by
  cases command with
  | put bs =>
    show some (Reply.silent, (b.put bs).held) = some (Reply.silent, b.held ++ bs)
    rw [held_put h]
  | resize size =>
    show some (Reply.silent, (b.resize size).held) = some (Reply.silent, b.held.take size)
    rw [held_resize h]
  | consume count =>
    rw [run, queue]
    split
    · next hcount =>
      obtain ⟨left, hconsume, -, hleft⟩ := exists_consume? h hcount
      rw [hconsume, ← hleft]
      rfl
    · next hover =>
      rw [consume?_eq_none h (Nat.lt_of_not_le hover)]
      rfl
  | clear =>
    show some (Reply.silent, b.clear.held) = some (Reply.silent, [])
    rw [held_clear]
  | clone => rfl
  | drain =>
    show some (Reply.payload b.drain.1, b.drain.2.held) = _
    rw [drain_fst h, held_drain]
    rfl

/-! ### Histories -/

/-- Only what is held matters, whatever happens to the buffer later. -/
theorem seen_history (h : b.WellFormed) (commands : List Filling) :
    seen (history run b commands) = history queue b.held commands := by
  induction commands generalizing b with
  | nil => rfl
  | cons command later ih =>
    have hseen := seen_run h command
    rw [history, history, ← hseen]
    -- what follows starts from the buffer that the first command leaves
    cases hrun : command.run b with
    | none => rfl
    | some result =>
      obtain ⟨reply, left⟩ := result
      have hlater := ih (wellFormed_run h hrun)
      show seen ((history run left later).bind _) = (history queue left.held later).bind _
      rw [← hlater]
      cases history run left later <;> rfl

theorem wellFormed_history (h : b.WellFormed) {commands : List Filling} {replies : List Reply}
    {left : Buffer} (hrun : history run b commands = some (replies, left)) : left.WellFormed := by
  induction commands generalizing b replies with
  | nil =>
    cases hrun
    exact h
  | cons command later ih =>
    rw [history] at hrun
    obtain ⟨⟨reply, next⟩, hstep, hrun⟩ := Option.bind_eq_some_iff.mp hrun
    obtain ⟨⟨rest, last⟩, hlater, hrun⟩ := Option.bind_eq_some_iff.mp hrun
    cases hrun
    exact ih (wellFormed_run h hstep) hlater

/-- A buffer that was cut off at a new limit goes on as a new buffer with only what was kept. -/
theorem seen_history_resize (h : b.WellFormed) (size fresh : Nat) (later : List Filling) :
    seen (history run b (resize size :: later)) =
      seen (history run (withCapacity fresh) (put (b.held.take size) :: later)) := by
  rw [seen_history h, seen_history (wellFormed_withCapacity fresh), held_withCapacity]
  rfl

/-- From the start on, a buffer does what a queue of bytes does; and once a resize has cut it off,
no reply and no content shows what was above. -/
theorem history_queue (capacity : Nat) (commands : List Filling) :
    seen (history run (withCapacity capacity) commands) = history queue [] commands ∧
      ∀ replies b, history run (withCapacity capacity) commands = some (replies, b) →
        ∀ size fresh later, seen (history run b (resize size :: later)) =
          seen (history run (withCapacity fresh) (put (b.held.take size) :: later)) := by
  have hstart := wellFormed_withCapacity capacity
  constructor
  · rw [seen_history hstart, held_withCapacity]
  · intro replies b hrun size fresh later
    exact seen_history_resize (wellFormed_history hstart hrun) size fresh later

/-- Four bytes are held when the limit is set to 2. The storage keeps all of them, also when the
limit is set to 5 again, but the two behind the limit are not seen any more. -/
theorem history_queue_cut_off :
    history run (withCapacity 3) [put [1, 2, 3, 4, 5], consume 1, clone] =
        some ([.silent, .payload (some [1]), .silent], ⟨[2, 3, 4, 5, 5, 0, 0, 0], 4, 8⟩) ∧
      seen (history run ⟨[2, 3, 4, 5, 5, 0, 0, 0], 4, 8⟩ [resize 2, resize 5, put [9], drain]) =
        seen (history run (withCapacity 0) [put [2, 3], resize 5, put [9], drain]) ∧
      history run ⟨[2, 3, 4, 5, 5, 0, 0, 0], 4, 8⟩ [resize 2, resize 5] =
        some ([.silent, .silent], ⟨[2, 3, 4, 5, 5, 0, 0, 0], 2, 5⟩) := by
  have hrun : history run (withCapacity 3) [put [1, 2, 3, 4, 5], consume 1, clone] =
      some ([.silent, .payload (some [1]), .silent], ⟨[2, 3, 4, 5, 5, 0, 0, 0], 4, 8⟩) := by
    decide
  refine ⟨hrun, ?_, by decide⟩
  exact (history_queue 3 _).2 _ _ hrun 2 0 [resize 5, put [9], drain]

end Filling

end RecordLayer.Buffer
