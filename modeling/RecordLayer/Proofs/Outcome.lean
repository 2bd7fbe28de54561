import RecordLayer.Trace

/-!
# What an outcome ensures

`Outcome.Ensures` gives the state after a success a postcondition, which also sees the result, and
the state after anything else another one. The rules follow the ways in which outcomes are put
together, so a loop needs no more than what one turn of it ensures.
-/

namespace RecordLayer.Outcome

variable {σ τ ε α β : Type}

theorem andThen_failed {o : Outcome σ ε α} {e : ε} (h : o.verdict = .failed e)
    (next : σ → α → Outcome σ ε β) : o.andThen next = ⟨o.state, o.events, .failed e⟩ := by
  simp [andThen, h]

theorem andThen_unfinished {o : Outcome σ ε α} (h : o.verdict = .unfinished)
    (next : σ → α → Outcome σ ε β) : o.andThen next = ⟨o.state, o.events, .unfinished⟩ := by
  simp [andThen, h]

/-- Either the next outcome follows, or all that happened was the first. -/
theorem andThen_cases (o : Outcome σ ε α) (next : σ → α → Outcome σ ε β) :
    (∃ a, o.verdict = .done a ∧ o.andThen next = (next o.state a).after o.events) ∨
      (o.andThen next).state = o.state ∧ (o.andThen next).events = o.events ∧
        ∀ b, (o.andThen next).verdict ≠ .done b := by
  cases h : o.verdict with
  | done a => exact .inl ⟨a, rfl, andThen_done h next⟩
  | failed e =>
    rw [andThen_failed h]
    exact .inr ⟨rfl, rfl, fun _ => nofun⟩
  | unfinished =>
    rw [andThen_unfinished h]
    exact .inr ⟨rfl, rfl, fun _ => nofun⟩

/-- Only a success after a success is one. -/
theorem exists_of_andThen_done {o : Outcome σ ε α} {next : σ → α → Outcome σ ε β} {b : β}
    (h : (o.andThen next).verdict = .done b) :
    ∃ a, o.verdict = .done a ∧ (next o.state a).verdict = .done b ∧
      o.andThen next = (next o.state a).after o.events := by
  rcases andThen_cases o next with ⟨a, hdone, hnext⟩ | ⟨-, -, hnot⟩
  · rw [hnext] at h
    exact ⟨a, hdone, h, hnext⟩
  · exact absurd h (hnot b)

/-- What happened first stays first. -/
theorem prefix_andThen (o : Outcome σ ε α) (next : σ → α → Outcome σ ε β) :
    o.events <+: (o.andThen next).events := by
  rcases andThen_cases o next with ⟨a, -, h⟩ | ⟨-, hevents, -⟩
  · rw [h]
    exact List.prefix_append _ _
  · exact ⟨[], by rw [List.append_nil, hevents]⟩

/-- After a success `Q` holds of the state and the result, otherwise `F` holds of the state. -/
def Ensures (o : Outcome σ ε α) (Q : σ → α → Prop) (F : σ → Prop) : Prop :=
  match o.verdict with
  | .done a => Q o.state a
  | .failed _ | .unfinished => F o.state

variable {o : Outcome σ ε α} {Q : σ → α → Prop} {F : σ → Prop}

theorem Ensures.of_done (h : o.Ensures Q F) {a : α} (hdone : o.verdict = .done a) : Q o.state a := by
  rw [Ensures, hdone] at h
  exact h

/-- With nothing to show of other ends, only a success counts. -/
theorem ensures_of_done (h : ∀ a, o.verdict = .done a → Q o.state a) :
    o.Ensures Q fun _ => True := by
  rw [Ensures]
  split
  · next a hdone => exact h a hdone
  · trivial
  · trivial

/-- What holds of the state holds of it however the run has ended. -/
theorem ensures_of_state {p : σ → Prop} (h : p o.state) : o.Ensures (fun s _ => p s) p := by
  rw [Ensures]
  split <;> exact h

/-- If nothing else is allowed, there is a success. -/
theorem Ensures.done (h : o.Ensures Q fun _ => False) : ∃ a, o.verdict = .done a ∧ Q o.state a := by
  rw [Ensures] at h
  split at h
  · next a hdone => exact ⟨a, hdone, h⟩
  · cases h
  · cases h

/-- The state satisfies whatever both conditions imply. -/
theorem Ensures.state {p : σ → Prop} (h : o.Ensures Q F) (hQ : ∀ s a, Q s a → p s)
    (hF : ∀ s, F s → p s) : p o.state := by
  rw [Ensures] at h
  split at h
  · exact hQ _ _ h
  · exact hF _ h
  · exact hF _ h

theorem Ensures.imp {Q' : σ → α → Prop} {F' : σ → Prop} (h : o.Ensures Q F)
    (hQ : ∀ s a, Q s a → Q' s a) (hF : ∀ s, F s → F' s) : o.Ensures Q' F' := by
  rw [Ensures] at h ⊢
  split at h
  · exact hQ _ _ h
  · exact hF _ h
  · exact hF _ h

theorem Ensures.after (h : o.Ensures Q F) (events : List Event) : (o.after events).Ensures Q F := h

theorem Ensures.andThen {next : σ → α → Outcome σ ε β} {Q' : σ → β → Prop} (h : o.Ensures Q F)
    (hnext : ∀ s a, Q s a → (next s a).Ensures Q' F) : (o.andThen next).Ensures Q' F := by
  rw [Ensures] at h
  cases hv : o.verdict with
  | done a =>
    rw [hv] at h
    rw [andThen_done hv]
    exact (hnext _ _ h).after _
  | failed e =>
    rw [hv] at h
    rw [andThen_failed hv]
    exact h
  | unfinished =>
    rw [hv] at h
    rw [andThen_unfinished hv]
    exact h

theorem Ensures.mapState {f : σ → τ} {Q' : τ → α → Prop} {F' : τ → Prop}
    (h : o.Ensures (fun s a => Q' (f s) a) fun s => F' (f s)) : (o.mapState f).Ensures Q' F' := h

end RecordLayer.Outcome
