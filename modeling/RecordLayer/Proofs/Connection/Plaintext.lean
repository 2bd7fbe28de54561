import RecordLayer.Engine.Scripted
import RecordLayer.Proofs.Connection.Conservation

/-!
# The plaintext that a read returns

Every read has a scratch buffer of its own, so plaintext cannot get from one read into another. What
keeps the scratch buffer from holding more than plaintext is that wraps take nothing from it.

* `payloadOf` is how bytes are returned: as nothing when there are none;
* `read_payload`: one read returns what its unwraps gave;
* `read_returns_unwrapped`: so does every read of a history that comes back without an error.
-/

namespace RecordLayer

/-- Draining never gives an empty payload. -/
theorem Buffer.drain_ne_empty {b : Buffer} (hb : b.WellFormed) : b.drain.1 ≠ some [] := by
  rw [drain_eq]
  split
  · next hpos =>
    intro hempty
    have hlen := length_held hb
    rw [Option.some.inj hempty, List.length_nil] at hlen
    omega
  · nofun

namespace Connection

variable {σ : Type}

/-- Bytes as a payload: nothing when there are none. -/
def payloadOf (bs : Bytes) : Option Bytes :=
  if bs = [] then none else some bs

theorem payloadOf_getD {payload : Option Bytes} (h : payload ≠ some []) :
    payloadOf (payload.getD []) = payload := by
  cases payload with
  | none => rfl
  | some bs =>
    have hbs : bs ≠ [] := fun hempty => h (congrArg some hempty)
    exact if_neg hbs

theorem read_ne_empty (E : Engine σ) (budget : Nat) {c : Connection σ} (h : c.WellFormed)
    {payload : Option Bytes} (hdone : (c.read E budget).verdict = .done payload) :
    payload ≠ some [] := by
  rcases Nat.eq_zero_or_pos c.inbound.position with hzero | hpos
  · rw [read_empty E budget hzero] at hdone
    cases hdone
    nofun
  · rw [read_full E budget hpos] at hdone
    rw [(verdict_closing_done hdone).2.1]
    exact Buffer.drain_ne_empty (receive_moved E budget (wellFormed_opening E h)).scratch

/-- If its wraps take nothing, a read returns what its unwraps gave. -/
theorem read_payload (E : Engine σ) (budget : Nat) {c : Connection σ} (h : c.WellFormed)
    {payload : Option Bytes} (hdone : (c.read E budget).verdict = .done payload)
    (hwraps : WrapsTakeNothing (calls (c.read E budget).events)) :
    payload = payloadOf (produced .unwrap (calls (c.read E budget).events)) := by
  rw [← (read_moved E budget h).plaintext payload hdone hwraps.consumed_eq_nil,
    payloadOf_getD (read_ne_empty E budget h hdone)]

/-- A read whose wraps take nothing returns exactly what its own unwraps gave, in the order of the
calls, and nothing when they gave nothing. Whatever other reads decrypted, in particular those that
failed, is no part of it. -/
theorem read_returns_unwrapped (E : Engine σ) (budget : Nat) (s : σ) (commands : List Command) :
    ∀ p ∈ performed E budget (new E s) commands, p.1 = .read →
      WrapsTakeNothing (calls p.2.events) → ∀ payload, p.2.reply = .payload payload →
        payload = payloadOf (produced .unwrap (calls p.2.events)) := by
  intro p hp hread hwraps payload hreply
  obtain ⟨earlier, later, -, hstep⟩ := mem_performed hp
  have hwf := wellFormed_after E budget (wellFormed_new E s) earlier
  rw [hread] at hstep
  rw [hstep] at hwraps hreply ⊢
  exact read_payload E budget hwf (verdict_of_reply hreply) hwraps

/-- The first read fails after it has decrypted a byte. The second one makes three unwraps, one of
them after an overflow and one after a wrap, and returns their bytes alone. -/
theorem read_returns_unwrapped_after_failure :
    let script : Scripted :=
      { stepping := true
        statuses := [.notHandshaking, .needUnwrap, .notHandshaking, .notHandshaking, .needWrap,
          .needUnwrap]
        unwraps := [.give .ok (some 1) (.bytes [7]), .fail (.io "connection reset"),
          .give .overflow (some 1) (.bytes [8]), .give .ok (some 1) (.bytes [9]),
          .give .underflow (some 0) (.bytes [10])]
        wraps := [.give .ok (some 0) (.bytes [1, 2])] }
    let commands : List Command := [.inject [1, 2, 3, 4], .read, .inject [5, 6, 7], .read]
    let past := performed Scripted.engine 9 (new Scripted.engine script) commands
    past.map (fun p => produced .unwrap (calls p.2.events)) = [[], [7], [], [8, 9, 10]] ∧
      ∃ second ∈ past, second.1 = .read ∧ WrapsTakeNothing (calls second.2.events) ∧
        second.2.reply = .payload (some [8, 9, 10]) ∧
        some [8, 9, 10] = payloadOf (produced .unwrap (calls second.2.events)) := by
  intro script commands past
  let second := past.get ⟨3, by decide⟩
  have hmem : second ∈ past := List.get_mem _ _
  have hread : second.1 = .read := by decide
  have hwraps : WrapsTakeNothing (calls second.2.events) := by decide
  have hreply : second.2.reply = .payload (some [8, 9, 10]) := by decide
  exact ⟨by decide, second, hmem, hread, hwraps, hreply,
    read_returns_unwrapped Scripted.engine 9 script commands second hmem hread hwraps
      (some [8, 9, 10]) hreply⟩

end Connection

end RecordLayer
