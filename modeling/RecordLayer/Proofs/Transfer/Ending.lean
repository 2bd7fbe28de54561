import RecordLayer.Proofs.Transfer.Retries

/-!
# How transfers end

A transfer is over with its last call, up to tasks. What it comes to is what its calls have moved,
and it fails with what the last of them reports if an engine keeps to the regions that it is given.

* `Ending` is what a transfer comes to, apart from the storage of its destination; `ending_run` says
  that it is up to the calls, and `attempt_of_error` and `attempt_of_ok` what a call does to it;
* `Confined` says that counts lie inside the regions, and `Confined.run` what follows for transfers.
-/

namespace RecordLayer.Transfer

variable {σ : Type} {E : Engine σ} {direction : Direction} {t : Transfer σ}

/-! ### Apart from the destination -/

/-- What a transfer comes to: the engine, the source and, if it succeeds, the status and all that
the destination holds. -/
structure Ending (σ : Type) where
  engine : σ
  source : Buffer
  verdict : Verdict EngineError (Status × Bytes)

def ending (o : Outcome (Transfer σ) EngineError Report) : Ending σ where
  engine := o.state.engine
  source := o.state.source
  verdict := o.verdict.map fun r => (r.status, o.state.destination.held)

@[simp] theorem ending_after (o : Outcome (Transfer σ) EngineError Report) (events : List Event) :
    ending (o.after events) = ending o := rfl

theorem ending_run (hE : Taskless E) (budget : Nat) :
    ending (run E direction budget t) = ending (exchange E direction budget t) := by
  rw [run]
  cases hv : (exchange E direction budget t).verdict with
  | done r =>
    rw [Outcome.andThen_done hv, finish_of_taskless hE, ending_after]
    simp only [ending, hv]
  | failed e =>
    rw [Outcome.andThen_failed hv]
    simp only [ending, hv, Verdict.map]
  | unfinished =>
    rw [Outcome.andThen_unfinished hv]
    simp only [ending, hv, Verdict.map]

/-- A call that fails moves nothing. -/
theorem attempt_of_error {e : EngineError} (h : (answer E direction t).report = .error e) :
    (attempt E direction t).verdict = .failed e ∧
      (attempt E direction t).state.engine = (answer E direction t).engine ∧
      (attempt E direction t).state.source = t.source := by
  have hreport : (nextCall E direction t).report = .error e := h
  rcases attempt_cases E direction t with ⟨r, _, _, hr, -, -, -⟩ | ⟨e', hfailure, hfailed⟩
  · rw [hreport] at hr
    cases hr
  · simp only [Call.failure?, hreport, Option.some.injEq] at hfailure
    rw [hfailed, hfailure]
    exact ⟨rfl, rfl, rfl⟩

/-- An honest call moves both cursors by what it reports. -/
theorem attempt_of_ok (ht : t.WellFormed) {r : Report}
    (honest : Honest (answer E direction t) t.source.region t.destination.region.length)
    (h : (answer E direction t).report = .ok r) :
    (attempt E direction t).verdict = .done r ∧
      (attempt E direction t).state.engine = (answer E direction t).engine ∧
      (attempt E direction t).state.source =
        { t.source with position := t.source.position + r.consumed } ∧
      t.destination.Gains (answer E direction t).written
        (attempt E direction t).state.destination := by
  obtain ⟨hconsumed, hproduced, hroom⟩ := honest r h
  rw [Buffer.length_region ht.source] at hconsumed
  rw [Buffer.length_region ht.destination] at hroom
  have haccepted := attempt_of_counts h hconsumed (hproduced ▸ hroom)
  rcases attempt_cases E direction t with ⟨r', source, destination, -, hsource, hdest, hdone⟩ |
    ⟨e, -, hfailed⟩
  · rw [hdone, Verdict.done.injEq] at haccepted
    rw [haccepted, hproduced] at hdest
    rw [haccepted, Buffer.advance?_of_le hconsumed, Option.some.injEq] at hsource
    rw [hdone, haccepted]
    exact ⟨rfl, rfl, hsource.symm, .of_fill_advance ht.destination hroom hdest⟩
  · rw [hfailed] at haccepted
    cases haccepted

/-! ### Counts inside the regions -/

/-- What an engine reports lies inside the regions that it is given. -/
def Confined (E : Engine σ) : Prop :=
  ∀ direction s source destination r, (E.call direction s source destination).report = .ok r →
    r.consumed ≤ source.length ∧ r.produced ≤ destination.length

theorem Confined.counts (h : Confined E) {r : Report}
    (hreport : (nextCall E direction t).report = .ok r) :
    r.consumed ≤ (nextCall E direction t).source.length ∧
      r.produced ≤ (nextCall E direction t).room := by
  obtain ⟨hconsumed, hproduced⟩ := h direction t.engine t.source.region t.destination.region r hreport
  exact ⟨hconsumed, Nat.le_trans hproduced (Buffer.length_region_le t.destination)⟩

theorem Confined.accepted? (h : Confined E) {r : Report}
    (hreport : (nextCall E direction t).report = .ok r) :
    (nextCall E direction t).accepted? = some r := by
  have hcounts := h.counts hreport
  simp only [Call.accepted?, hreport, if_pos hcounts]

/-- A call that is not accepted has failed by itself. -/
theorem Confined.report_of_failure? (h : Confined E) {e : EngineError}
    (hfailure : (nextCall E direction t).failure? = some e) :
    (nextCall E direction t).report = .error e := by
  rw [Call.failure?] at hfailure
  cases hreport : (nextCall E direction t).report with
  | error e' =>
    rw [hreport] at hfailure
    cases hfailure
    rfl
  | ok r =>
    obtain ⟨hconsumed, hproduced⟩ := h.counts hreport
    have hremaining : r.consumed ≤ t.source.remaining :=
      Nat.le_trans hconsumed (Buffer.length_region_le t.source)
    rw [hreport] at hfailure
    simp only at hfailure
    rw [if_pos ⟨hremaining, hproduced⟩] at hfailure
    cases hfailure

/-- Without tasks, only the calls can make a transfer fail. -/
theorem exchange_failed_of_run (hE : Taskless E) {budget : Nat} {e : EngineError}
    (h : (run E direction budget t).verdict = .failed e) :
    (exchange E direction budget t).verdict = .failed e := by
  rw [run] at h
  cases hverdict : (exchange E direction budget t).verdict with
  | done r =>
    rw [Outcome.andThen_done hverdict, Outcome.verdict_after, finish_of_taskless hE] at h
    cases h
  | failed e' =>
    rw [Outcome.andThen_failed hverdict] at h
    exact h
  | unfinished =>
    rw [Outcome.andThen_unfinished hverdict] at h
    cases h

/-- A transfer over an engine that keeps to its regions accepts every call that succeeds, and fails
only with what its last call reports. -/
theorem Confined.run (h : Confined E) (hE : Taskless E) (direction : Direction) (budget : Nat)
    (t : Transfer σ) :
    let o := run E direction budget t
    (∀ call ∈ calls o.events, ∀ r, call.report = .ok r → call.accepted? = some r) ∧
    ∀ e, o.verdict = .failed e →
      ∃ last, (calls o.events).getLast? = some last ∧ last.report = .error e := by
  intro o
  have hcalls : calls o.events = (stages E direction budget t).map (nextCall E direction) :=
    calls_run E direction budget t
  rw [hcalls]
  refine ⟨?_, fun e hfailed => ?_⟩
  · rw [List.forall_mem_map]
    exact fun s _ r hreport => h.accepted? hreport
  · obtain ⟨last, hlast, hfailure⟩ := exists_last_of_failed (exchange_failed_of_run hE hfailed)
    refine ⟨nextCall E direction last, ?_, h.report_of_failure? hfailure⟩
    rw [List.getLast?_map, hlast]
    rfl

end RecordLayer.Transfer
