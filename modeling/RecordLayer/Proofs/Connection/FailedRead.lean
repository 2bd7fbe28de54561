import RecordLayer.Engine.Scripted
import RecordLayer.Proofs.Connection.Conservation

/-!
# What a failed read leaves behind

A read that fails returns with the inbound buffer still turned around. The bytes below its position
are those that unwraps have taken, and from then on the buffer is filled behind them. So the taken
bytes come again, and the bytes that no unwrap has got are lost.

* `inbound_of_stopped`: where a read that does not succeed leaves the inbound buffer;
* `held_after_fills`: without reads, what is held only grows by what is injected;
* `held_sublist`: no command brings back a byte that is not held;
* `failed_read_replayed`: what the next read, and every later one, gives to its unwraps.
-/

namespace RecordLayer.Connection

variable {σ : Type}

/-! ### The read that fails -/

/-- A read that does not succeed has held bytes and leaves the buffer turned. -/
theorem inbound_of_stopped (E : Engine σ) (budget : Nat) {c : Connection σ} (h : c.WellFormed)
    (hstopped : ∀ payload, (c.read E budget).verdict ≠ .done payload) :
    0 < c.inbound.position ∧
      (c.read E budget).state.inbound =
        turned c (taken .unwrap (calls (c.read E budget).events)) ∧
      taken .unwrap (calls (c.read E budget).events) ≤ c.inbound.position := by
  rcases Nat.eq_zero_or_pos c.inbound.position with hzero | hpos
  · rw [read_empty E budget hzero] at hstopped
    exact absurd rfl (hstopped none)
  · obtain ⟨hposition, hwithin⟩ := position_received E budget h
    rw [Buffer.length_held h.inbound] at hwithin
    rw [read_full E budget hpos] at hstopped ⊢
    rw [events_closing, ← length_consumed]
    refine ⟨hpos, ?_, hwithin⟩
    rw [← hposition]
    rw [closing] at hstopped ⊢
    split at hstopped
    · exact absurd rfl (hstopped _)
    · rfl
    · rfl

theorem held_of_stopped (E : Engine σ) (budget : Nat) {c : Connection σ} (h : c.WellFormed)
    (hstopped : ∀ payload, (c.read E budget).verdict ≠ .done payload) :
    (c.read E budget).state.inbound.held =
      c.inbound.held.take (taken .unwrap (calls (c.read E budget).events)) := by
  obtain ⟨-, hinbound, hle⟩ := inbound_of_stopped E budget h hstopped
  rw [hinbound, held_turned hle]

/-- Without a budget nothing fails. -/
theorem budget_pos_of_failed {E : Engine σ} {budget : Nat} {c : Connection σ} {error : Error}
    (h : (c.read E budget).verdict = .failed error) : 0 < budget := by
  rcases Nat.eq_zero_or_pos budget with rfl | hpos
  · rcases Nat.eq_zero_or_pos c.inbound.position with hzero | hpos
    · rw [read_empty E 0 hzero] at h
      cases h
    · rw [read_full E 0 hpos] at h
      cases h
  · exact hpos

/-! ### What comes after it -/

theorem injected_cons (command : Command) (rest : List Command) :
    injected (command :: rest) = injected [command] ++ injected rest := by
  simp [injected]

/-- A command that does not read adds what it injects to what is held. -/
theorem held_step_fill (E : Engine σ) (budget : Nat) {c : Connection σ} (h : c.WellFormed)
    {command : Command} (hread : command ≠ .read) :
    (c.step E budget command).connection.inbound.held = c.inbound.held ++ injected [command] := by
  by_cases hinject : ∃ bs, command = .inject bs
  · obtain ⟨bs, rfl⟩ := hinject
    rw [show injected [.inject bs] = bs from List.append_nil bs]
    exact Buffer.held_put h.inbound bs
  · have hother := injected_concat_other command [] (not_exists.mp hinject)
    rw [List.nil_append] at hother
    rw [hother, inbound_step_idle E budget h hread (not_exists.mp hinject)]
    exact (List.append_nil _).symm

theorem held_after_fills (E : Engine σ) (budget : Nat) {c : Connection σ} (h : c.WellFormed)
    {between : List Command} (hread : ∀ command ∈ between, command ≠ .read) :
    (after E budget c between).inbound.held = c.inbound.held ++ injected between := by
  induction between generalizing c with
  | nil => exact (List.append_nil _).symm
  | cons command rest ih =>
    rw [List.forall_mem_cons] at hread
    rw [after_cons, ih (wellFormed_step E budget h command) hread.2,
      held_step_fill E budget h hread.1, injected_cons command rest, List.append_assoc]

/-- A read drops a front of what is held, or all behind a front. -/
theorem held_read_sublist (E : Engine σ) (budget : Nat) {c : Connection σ} (h : c.WellFormed) :
    (c.read E budget).state.inbound.held.Sublist c.inbound.held := by
  by_cases hdone : ∃ payload, (c.read E budget).verdict = .done payload
  · obtain ⟨payload, hdone⟩ := hdone
    rw [(read_moved E budget h).inbound payload hdone]
    exact List.drop_sublist _ _
  · rw [held_of_stopped E budget h (not_exists.mp hdone)]
    exact List.take_sublist _ _

theorem held_sublist (E : Engine σ) (budget : Nat) {c : Connection σ} (h : c.WellFormed)
    (later : List Command) :
    (after E budget c later).inbound.held.Sublist (c.inbound.held ++ injected later) := by
  induction later generalizing c with
  | nil => exact List.sublist_append_left _ _
  | cons command rest ih =>
    have hstep : (c.step E budget command).connection.inbound.held.Sublist
        (c.inbound.held ++ injected [command]) := by
      obtain rfl | hread := eq_or_ne command .read
      · exact (held_read_sublist E budget h).trans (List.sublist_append_left _ _)
      · exact (held_step_fill E budget h hread) ▸ List.Sublist.refl _
    rw [after_cons, injected_cons, ← List.append_assoc]
    exact (ih (wellFormed_step E budget h command)).trans (hstep.append (List.Sublist.refl _))

/-- Every unwrap of a command is given a part of what is held. -/
theorem source_sublist (E : Engine σ) (budget : Nat) {c : Connection σ} (h : c.WellFormed)
    (command : Command) {call : Call}
    (hcall : call ∈ calls (c.step E budget command).events) (hunwrap : call.direction = .unwrap) :
    call.source.Sublist c.inbound.held := by
  obtain rfl | hread := eq_or_ne command .read
  · obtain ⟨earlier, later, hsplit⟩ := List.append_of_mem hcall
    rw [(read_moved E budget h).readsFrom earlier call later hsplit hunwrap]
    exact List.drop_sublist _ _
  · rw [directed_step E budget h hread call hcall] at hunwrap
    cases hunwrap

/-- A read of bytes that are held starts with an unwrap of all of them. -/
theorem read_starts (E : Engine σ) {budget : Nat} (hbudget : 0 < budget) {c : Connection σ}
    (h : c.WellFormed) (hheld : c.inbound.held ≠ []) :
    ∃ call rest, calls (c.read E budget).events = call :: rest ∧ call.direction = .unwrap ∧
      call.source = c.inbound.held := by
  have hpos : 0 < c.inbound.position := by
    rw [← Buffer.length_held h.inbound]
    exact List.length_pos_iff.mpr hheld
  obtain ⟨more, rfl⟩ := Nat.exists_eq_add_of_le' hbudget
  let t : Transfer σ := ⟨(opening E c).engine, (opening E c).inbound, (opening E c).scratch⟩
  have hfirst : [.call (Transfer.nextCall E .unwrap t)] <+:
      ((opening E c).unwrap E (more + 1)).events := Transfer.run_starts E .unwrap more t
  have hread : ((opening E c).unwrap E (more + 1)).events <+:
      (receive E (more + 1) (opening E c)).events := Outcome.prefix_andThen _ _
  obtain ⟨rest, hrest⟩ := hfirst.trans hread
  refine ⟨Transfer.nextCall E .unwrap t, calls rest, ?_, rfl, Buffer.region_ofBytes _⟩
  rw [read_full E _ hpos, events_closing, ← hrest]
  rfl

/-- Let a read of `P` fail after its unwraps have taken `count` bytes. Until the next read, whatever
else is done, the first `count` bytes of `P` and behind them what is injected are held, and that is
what the next read starts with, if it is anything at all. No later unwrap gets a byte of the rest
of `P`. -/
theorem failed_read_replayed (E : Engine σ) (budget : Nat) (s : σ) (commands : List Command) :
    let c := after E budget (new E s) commands
    let failed := c.step E budget .read
    let count := taken .unwrap (calls failed.events)
    ∀ error, failed.reply = .failed error →
      count ≤ c.inbound.held.length ∧
      (∀ between : List Command, (∀ command ∈ between, command ≠ .read) →
        let next := after E budget failed.connection between
        let kept := c.inbound.held.take count ++ injected between
        next.inbound.held = kept ∧
          (kept = [] → next.step E budget .read =
            ⟨{ next with inbound := next.inbound.flip.clear }, [], .payload none⟩) ∧
          (kept ≠ [] → ∃ call rest, calls (next.step E budget .read).events = call :: rest ∧
            call.direction = .unwrap ∧ call.source = kept)) ∧
      ∀ (later : List Command) (command : Command),
        ∀ call ∈ calls ((after E budget failed.connection later).step E budget command).events,
          call.direction = .unwrap →
            call.source.Sublist (c.inbound.held.take count ++ injected later) := by
  intro c failed count error hreply
  have hwf : c.WellFormed := wellFormed_after E budget (wellFormed_new E s) commands
  have hwf' : failed.connection.WellFormed := wellFormed_step E budget hwf .read
  have hfailed : (c.read E budget).verdict = .failed error := failed_of_reply hreply
  have hstopped : ∀ payload, (c.read E budget).verdict ≠ .done payload := by
    intro payload hdone
    rw [hfailed] at hdone
    cases hdone
  have hheld : failed.connection.inbound.held = c.inbound.held.take count :=
    held_of_stopped E budget hwf hstopped
  refine ⟨?_, ?_, ?_⟩
  · rw [Buffer.length_held hwf.inbound]
    exact (inbound_of_stopped E budget hwf hstopped).2.2
  · intro between hbetween next kept
    have hnext : next.inbound.held = kept := by
      rw [held_after_fills E budget hwf' hbetween, hheld]
    have hwfnext : next.WellFormed := wellFormed_after E budget hwf' between
    refine ⟨hnext, ?_, ?_⟩
    · intro hempty
      have hzero : next.inbound.position = 0 := by
        rw [← Buffer.length_held hwfnext.inbound, hnext, hempty, List.length_nil]
      rw [step, read_empty E budget hzero]
      rfl
    · intro hkept
      rw [← hnext] at hkept ⊢
      exact read_starts E (budget_pos_of_failed hfailed) hwfnext hkept
  · -- an unwrap gets held bytes only, and the lost ones are never held again
    intro later command call hcall hunwrap
    rw [← hheld]
    exact (source_sublist E budget (wellFormed_after E budget hwf' later) command hcall hunwrap).trans
      (held_sublist E budget hwf' later)

/-- A buffer of four bytes is full when a read takes one of them and fails. The bytes that come then
are written over the three others and beyond; an extraction in between changes nothing about it. -/
theorem failed_read_replayed_past_capacity :
    let script : Scripted :=
      { packet := 4
        stepping := true
        statuses := [.notHandshaking, .needUnwrap, .notHandshaking]
        unwraps := [.give .ok (some 1) (.bytes [7]), .fail (.io "connection reset"),
          .give .ok (some 2) (.bytes [8])]
        wraps := [.echo 0 none none] }
    let c := after Scripted.engine 9 (new Scripted.engine script) [.inject [1, 2, 3, 4]]
    let failed := c.step Scripted.engine 9 .read
    let between : List Command := [.inject [5], .write [9], .extract, .inject [6, 7, 8, 9]]
    let next := after Scripted.engine 9 failed.connection between
    failed.reply = .failed (.unexpectedEof (.io "connection reset")) ∧
      taken .unwrap (calls failed.events) = 1 ∧
      next.inbound.held = [1, 5, 6, 7, 8, 9] ∧
      (∃ call rest, calls (next.step Scripted.engine 9 .read).events = call :: rest ∧
        call.direction = .unwrap ∧ call.source = [1, 5, 6, 7, 8, 9]) ∧
      ∀ call ∈ calls ((after Scripted.engine 9 failed.connection (between ++ [.read])).step
        Scripted.engine 9 .read).events, call.direction = .unwrap →
          call.source.Sublist [1, 5, 6, 7, 8, 9] := by
  intro script c failed between next
  have hreply : failed.reply = .failed (.unexpectedEof (.io "connection reset")) := by decide
  have hcount : taken .unwrap (calls failed.events) = 1 := by decide
  obtain ⟨-, hnext, hlater⟩ :=
    failed_read_replayed Scripted.engine 9 script [.inject [1, 2, 3, 4]] _ hreply
  obtain ⟨hheld, -, hstarts⟩ := hnext between (by decide)
  have hlater := hlater (between ++ [.read]) .read
  rw [hcount] at hheld hstarts hlater
  exact ⟨hreply, hcount, hheld, hstarts (by decide), hlater⟩

end RecordLayer.Connection
