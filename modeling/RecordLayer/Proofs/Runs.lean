import Mathlib.Data.List.Induction

/-!
# Commands one after the other

Connections, contexts and sessions all perform commands from a list. What holds of such runs,
whatever the commands are, is said here once: `step` performs one command, and `next` is the state
that it leaves.

* `Runs.after` is the state at the end, `Runs.performed` the commands with what each of them did;
* `Runs.invariant` is induction on runs: what holds at the start and is kept by one more command
  holds after every run.
-/

namespace RecordLayer.Runs

variable {σ ι τ : Type} (step : σ → ι → τ) (next : τ → σ)

def after (s : σ) (commands : List ι) : σ :=
  commands.foldl (fun s command => next (step s command)) s

def performed : σ → List ι → List (ι × τ)
  | _, [] => []
  | s, command :: rest => (command, step s command) :: performed (next (step s command)) rest

/-- Commands with the steps that are listed for them. -/
theorem zip_eq_performed {history : σ → List ι → List τ}
    (hcons : ∀ s command rest,
      history s (command :: rest) = step s command :: history (next (step s command)) rest)
    (s : σ) (commands : List ι) :
    commands.zip (history s commands) = performed step next s commands := by
  induction commands generalizing s with
  | nil => rfl
  | cons command rest ih => rw [hcons, List.zip_cons_cons, ih, performed]

theorem after_append (s : σ) (earlier later : List ι) :
    after step next s (earlier ++ later) = after step next (after step next s earlier) later :=
  List.foldl_append

theorem performed_append (s : σ) (earlier later : List ι) :
    performed step next s (earlier ++ later) =
      performed step next s earlier ++ performed step next (after step next s earlier) later := by
  induction earlier generalizing s with
  | nil => rfl
  | cons command rest ih =>
    rw [List.cons_append, performed, performed, ih, List.cons_append]
    rfl

theorem invariant (s : σ) {motive : List ι → List (ι × τ) → σ → Prop} (start : motive [] [] s)
    (continues : ∀ commands past s command, motive commands past s →
      motive (commands ++ [command]) (past ++ [(command, step s command)]) (next (step s command)))
    (commands : List ι) :
    motive commands (performed step next s commands) (after step next s commands) := by
  induction commands using List.reverseRecOn with
  | nil => exact start
  | append_singleton commands command ih =>
    rw [performed_append, after_append]
    exact continues _ _ _ command ih

/-- Every entry of a past is the step of its command on the state at that time. -/
theorem mem_performed {s : σ} {commands : List ι} {p : ι × τ}
    (h : p ∈ performed step next s commands) :
    ∃ earlier later, commands = earlier ++ p.1 :: later ∧
      p.2 = step (after step next s earlier) p.1 := by
  induction commands generalizing s with
  | nil => cases h
  | cons command rest ih =>
    rw [performed] at h
    rcases List.mem_cons.mp h with rfl | hrest
    · exact ⟨[], rest, rfl, rfl⟩
    · obtain ⟨earlier, later, rfl, hstep⟩ := ih hrest
      exact ⟨command :: earlier, later, rfl, hstep⟩

end RecordLayer.Runs
