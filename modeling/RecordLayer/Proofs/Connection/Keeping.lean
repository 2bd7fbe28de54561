import RecordLayer.Proofs.Connection.Conservation

/-!
# Invariants of an engine

The record layer changes an engine in two ways: it makes calls, and it fetches tasks and runs them.
A property of engine states that both keep holds of the engine of a connection at all times.

* `Engine.Keeps` says that calls and tasks keep a property;
* `Keeps.exchange`, `Keeps.run`, `Keeps.drive` and `Keeps.receive` carry it through the loops, and
  `Keeps.step` through a command, whatever that comes to.
-/

namespace RecordLayer

/-- Neither calls nor tasks lead from the states with a property to others. -/
structure Engine.Keeps {σ : Type} (E : Engine σ) (p : σ → Prop) : Prop where
  call : ∀ direction s source destination, p s → p (E.call direction s source destination).engine
  nextTask : ∀ s, p s → p (E.nextTask s).1
  task : ∀ s task, p s → (E.nextTask s).2 = some task → p (task (E.nextTask s).1).1

namespace Engine.Keeps

variable {σ : Type} {E : Engine σ} {p : σ → Prop}

theorem attempt (hE : E.Keeps p) (direction : Direction) {t : Transfer σ} (h : p t.engine) :
    p (Transfer.attempt E direction t).state.engine := by
  have hnext : p (Transfer.answer E direction t).engine := hE.call _ _ _ _ h
  rcases Transfer.attempt_cases E direction t with ⟨_, _, _, -, -, -, hdone⟩ | ⟨_, -, hfailed⟩
  · rw [hdone]
    exact hnext
  · rw [hfailed]
    exact hnext

theorem exchange (hE : E.Keeps p) (direction : Direction) (budget : Nat) {t : Transfer σ}
    (h : p t.engine) : p (Transfer.exchange E direction budget t).state.engine := by
  have hall : (Transfer.exchange E direction budget t).Ensures (fun t _ => p t.engine)
      fun t => p t.engine := by
    refine Transfer.exchange_ensures (I := fun t => p t.engine) (fun _ h => h) ?_ budget h
    intro t h
    have hnext := Outcome.ensures_of_state (p := fun t : Transfer σ => p t.engine)
      (hE.attempt direction h)
    -- a larger destination changes no engine, so the next call meets what this one has left
    exact hnext.imp (fun t r h => by split <;> exact h) fun _ h => h
  exact hall.state (fun _ _ h => h) (fun _ h => h)

theorem runTasks (hE : E.Keeps p) (budget executed : Nat) {s : σ} (h : p s) :
    p (Transfer.runTasks E budget executed s).state := by
  induction budget generalizing executed s with
  | zero => exact h
  | succ budget ih =>
    have hnext := hE.nextTask s h
    have htask := hE.task s
    rw [Transfer.runTasks]
    rcases hfetched : E.nextTask s with ⟨s', _ | task⟩
    · rw [hfetched] at hnext
      exact hnext
    · rw [hfetched] at htask
      have hran := htask task h rfl
      rcases hresult : task s' with ⟨s'', _ | e⟩
      · rw [hresult] at hran
        simp only [hresult]
        exact ih _ hran
      · rw [hresult] at hran
        simp only [hresult]
        exact hran

theorem run (hE : E.Keeps p) (direction : Direction) (budget : Nat) {t : Transfer σ}
    (h : p t.engine) : p (Transfer.run E direction budget t).state.engine := by
  have hfirst := hE.exchange direction budget h
  rw [Transfer.run]
  rcases Outcome.andThen_cases (Transfer.exchange E direction budget t)
    (Transfer.finish E budget) with ⟨r, -, hnext⟩ | ⟨hstate, -, -⟩
  · rw [hnext, Outcome.state_after, Transfer.finish, Outcome.state_after]
    split
    · exact hE.runTasks budget 0 hfirst
    · exact hfirst
  · rw [hstate]
    exact hfirst

theorem drive (hE : E.Keeps p) (budget turns : Nat) {h : Handshake σ} (hp : p h.engine) :
    p (h.drive E budget turns).state.engine := by
  have hall : (h.drive E budget turns).Ensures (fun h _ => p h.engine) fun h => p h.engine := by
    refine Handshake.drive_ensures (I := fun h => p h.engine) (fun _ h => h) ?_ ?_
      (fun _ h _ _ => h) turns hp
    · intro h hp _
      exact Outcome.ensures_of_state (p := fun h : Handshake σ => p h.engine)
        (hE.run .wrap budget hp)
    · intro h hp _
      have hunwrap := Outcome.ensures_of_state (p := fun h => p h.engine) (o := h.unwrap E budget)
        (hE.run .unwrap budget hp)
      exact hunwrap.imp (fun h r hp => by split <;> exact hp) fun _ h => h
  exact hall.state (fun _ _ h => h) (fun _ h => h)

theorem receive (hE : E.Keeps p) (budget : Nat) {h : Handshake σ} (hp : p h.engine) :
    p (Connection.receive E budget h).state.engine := by
  have hunwrap := Outcome.ensures_of_state (p := fun h => p h.engine) (o := h.unwrap E budget)
    (hE.run .unwrap budget hp)
  have hall : (Connection.receive E budget h).Ensures (fun h _ => p h.engine)
      fun h => p h.engine := by
    refine hunwrap.andThen fun h _ hp => ?_
    exact Outcome.ensures_of_state (p := fun h : Handshake σ => p h.engine)
      (hE.drive budget budget hp)
  exact hall.state (fun _ _ h => h) (fun _ h => h)

theorem step (hE : E.Keeps p) (budget : Nat) {c : Connection σ} (h : p c.engine)
    (command : Connection.Command) : p (c.step E budget command).connection.engine := by
  obtain rfl | hread := eq_or_ne command .read
  · show p (c.read E budget).state.engine
    rcases Nat.eq_zero_or_pos c.inbound.position with hzero | hpos
    · rw [Connection.read_empty E budget hzero]
      exact h
    · rw [Connection.read_full E budget hpos, Connection.engine_closing]
      exact hE.receive budget h
  obtain rfl | hextract := eq_or_ne command .extract
  · show p (c.extract E budget).state.engine
    rcases Nat.eq_zero_or_pos c.outbound.position with hzero | hpos
    · cases hmailbox : c.mailbox.hasRemaining with
      | false =>
        rw [Connection.extract_idle E budget hzero hmailbox]
        exact h
      | true =>
        rw [Connection.extract_wrap E budget hzero hmailbox, Connection.engine_closingWrap]
        exact hE.run .wrap budget h
    · rw [Connection.extract_pending E budget hpos]
      exact h
  · rw [Connection.engine_step_idle E budget c hread hextract]
    exact h

end Engine.Keeps

end RecordLayer
