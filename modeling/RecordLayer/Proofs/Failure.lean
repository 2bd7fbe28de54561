import RecordLayer.Proofs.Flow
import RecordLayer.Proofs.Outcome

/-!
# The first failure

An operation stops at the first thing that goes wrong, and tells what it was.

* `Event.failure?` is what went wrong at one event: an engine call failed or reported counts beyond
  its regions, or a task failed;
* `Outcome.StopsAtFailure` says that an outcome tells the failure of its last event, and that no
  event before it was one; an outcome that tells none has none;
* `StopsAtFailure.andThen` is what makes it hold of whole operations.
-/

namespace RecordLayer

/-- Why a call was not accepted. -/
def Call.failure? (c : Call) : Option EngineError :=
  match c.report with
  | .error e => some e
  | .ok r =>
    if r.consumed ≤ c.reading.remaining ∧ r.produced ≤ c.room then none
    else some <| .misbehaved <|
      .overreported c.direction r.consumed r.produced c.reading.remaining c.room

/-- The call succeeded with counts inside its regions. -/
def Call.Accepted (c : Call) : Prop :=
  ∃ r, c.report = .ok r ∧ c.accepted? = some r

theorem Call.accepted_of_failure?_eq_none {c : Call} (hc : c.reading.WellFormed)
    (h : c.failure? = none) : c.Accepted := by
  rw [failure?] at h
  split at h
  · cases h
  · next r hreport =>
    refine ⟨r, hreport, ?_⟩
    split at h
    · next hcounts =>
      rw [accepted?, hreport, source, Buffer.length_region hc]
      exact if_pos hcounts
    · cases h

theorem Call.Accepted.taken_eq {c : Call} (h : c.Accepted) : c.taken = c.reported := by
  obtain ⟨r, hreport, haccepted⟩ := h
  rw [taken, haccepted, reported, hreport]

/-- Of calls that were all accepted, the reports tell how much was taken. -/
theorem length_consumed_of_accepted {cs : List Call} (h : ∀ c ∈ cs, c.Accepted)
    (direction : Direction) : (consumed direction cs).length = reported direction cs := by
  rw [length_consumed]
  induction cs with
  | nil => rfl
  | cons c cs ih =>
    rw [List.forall_mem_cons] at h
    rw [taken, reported, ih h.2, h.1.taken_eq]

theorem Call.accepted?_of_failure? {c : Call} {e : EngineError} (hc : c.reading.WellFormed)
    (h : c.failure? = some e) : c.accepted? = none := by
  rw [failure?] at h
  rw [accepted?]
  split at h
  · next hreport => rw [hreport]
  · next r hreport =>
    split at h
    · cases h
    · next hcounts =>
      rw [hreport, source, Buffer.length_region hc]
      exact if_neg hcounts

/-- What went wrong at an event. -/
def Event.failure? : Event → Option EngineError
  | .call c => c.failure?
  | .ran failure => failure
  | .grown _ _ _ | .status _ | .fetched _ | .tasksDone _ | .turn _ | .discarded _ => none

/-- Nothing went wrong. -/
def Smooth (events : List Event) : Prop :=
  ∀ event ∈ events, event.failure? = none

theorem smooth_nil : Smooth [] := by
  intro event h
  cases h

theorem Smooth.append {xs ys : List Event} (hxs : Smooth xs) (hys : Smooth ys) :
    Smooth (xs ++ ys) := by
  intro event h
  rcases List.mem_append.mp h with h | h
  · exact hxs event h
  · exact hys event h

theorem smooth_cons {event : Event} {events : List Event} (h : event.failure? = none)
    (hs : Smooth events) : Smooth (event :: events) := by
  intro e he
  rcases List.mem_cons.mp he with rfl | he
  · exact h
  · exact hs e he

@[simp] theorem calls_cons (event : Event) (events : List Event) :
    calls (event :: events) = (match event with | .call c => [c] | _ => []) ++ calls events := by
  cases event <;> rfl

theorem mem_calls {c : Call} {events : List Event} : c ∈ calls events ↔ .call c ∈ events := by
  rw [calls, List.mem_filterMap]
  constructor
  · rintro ⟨event, hmem, hevent⟩
    cases event <;> cases hevent
    exact hmem
  · intro h
    exact ⟨_, h, rfl⟩

theorem Smooth.failure?_call {events : List Event} (h : Smooth events) {c : Call}
    (hc : c ∈ calls events) : c.failure? = none :=
  h _ (mem_calls.mp hc)

namespace Outcome

variable {σ τ ε α β : Type}

/-- A failure is that of the last event, and nothing went wrong before it. -/
def StopsAtFailure (o : Outcome σ EngineError α) : Prop :=
  match o.verdict with
  | .failed e =>
    ∃ earlier last, o.events = earlier ++ [last] ∧ last.failure? = some e ∧ Smooth earlier
  | .done _ | .unfinished => Smooth o.events

theorem StopsAtFailure.smooth {o : Outcome σ EngineError α} (h : o.StopsAtFailure) {a : α}
    (hdone : o.verdict = .done a) : Smooth o.events := by
  rw [StopsAtFailure, hdone] at h
  exact h

theorem stopsAtFailure_of_smooth {o : Outcome σ EngineError α} (h : Smooth o.events)
    (hverdict : ∀ e, o.verdict ≠ .failed e) : o.StopsAtFailure := by
  rw [StopsAtFailure]
  split
  · next e he => exact absurd he (hverdict e)
  · exact h
  · exact h

theorem StopsAtFailure.after {o : Outcome σ EngineError α} (h : o.StopsAtFailure)
    {events : List Event} (hs : Smooth events) : (o.after events).StopsAtFailure := by
  rw [StopsAtFailure] at h ⊢
  rw [verdict_after, events_after]
  split
  · next hv =>
    rw [hv] at h
    obtain ⟨earlier, last, hsplit, hlast, hearlier⟩ := h
    exact ⟨events ++ earlier, last, by rw [hsplit, List.append_assoc], hlast, hs.append hearlier⟩
  · next hv =>
    rw [hv] at h
    exact hs.append h
  · next hv =>
    rw [hv] at h
    exact hs.append h

theorem StopsAtFailure.andThen {o : Outcome σ EngineError α} {next : σ → α → Outcome σ EngineError β}
    (h : o.StopsAtFailure) (hnext : ∀ a, o.verdict = .done a → (next o.state a).StopsAtFailure) :
    (o.andThen next).StopsAtFailure := by
  cases hv : o.verdict with
  | done a =>
    rw [andThen_done hv]
    exact (hnext a hv).after (h.smooth hv)
  | failed e =>
    rw [StopsAtFailure, hv] at h
    rw [andThen_failed hv]
    exact h
  | unfinished =>
    rw [StopsAtFailure, hv] at h
    rw [andThen_unfinished hv]
    exact h

theorem StopsAtFailure.mapState {o : Outcome σ EngineError α} (h : o.StopsAtFailure) (f : σ → τ) :
    (o.mapState f).StopsAtFailure := h

theorem StopsAtFailure.map {o : Outcome σ EngineError α} (h : o.StopsAtFailure) (f : α → β) :
    (o.map f).StopsAtFailure := by
  rw [StopsAtFailure] at h ⊢
  cases hv : o.verdict <;> rw [hv] at h <;> simp only [Outcome.map, hv, Verdict.map] <;> exact h

/-- All calls before another one are accepted. -/
theorem StopsAtFailure.failure?_of_before {o : Outcome σ EngineError α} (h : o.StopsAtFailure)
    {earlier later : List Call} {call c : Call} (hsplit : calls o.events = earlier ++ call :: later)
    (hc : c ∈ earlier) : c.failure? = none := by
  rw [StopsAtFailure] at h
  split at h
  · next e he =>
    obtain ⟨front, last, hevents, -, hfront⟩ := h
    apply hfront.failure?_call
    rw [hevents, calls_append] at hsplit
    rcases hlast : calls [last] with _ | ⟨x, xs⟩
    · rw [hlast, List.append_nil] at hsplit
      exact hsplit ▸ List.mem_append_left _ hc
    · have hone : xs = [] := by
        have hlen : (calls [last]).length ≤ 1 := List.length_filterMap_le _ _
        rw [hlast, List.length_cons] at hlen
        exact List.length_eq_zero_iff.mp (by omega)
      subst hone
      have hfirst : calls front = earlier ++ (call :: later).dropLast := by
        rw [← List.dropLast_append_of_ne_nil (List.cons_ne_nil call later), ← hsplit, hlast,
          List.dropLast_concat]
      exact hfirst ▸ List.mem_append_left _ hc
  · exact h.failure?_call (hsplit ▸ List.mem_append_left _ hc)
  · exact h.failure?_call (hsplit ▸ List.mem_append_left _ hc)

end Outcome

end RecordLayer
