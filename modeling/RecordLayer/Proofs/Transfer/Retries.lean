import RecordLayer.Engine.Scripted
import RecordLayer.Proofs.Transfer

/-!
# The retries of a transfer

A transfer makes one call after the other as long as they overflow. Each call is made at a stage:
the engine, the source and the destination as the calls before it have left them, with the
destination resized. So what is to be said about retries is said about two stages in a row.

* `retried?` is the next stage after a call that overflows, and `stages` lists all of them;
* `calls_run`: the calls of a transfer are those of its stages;
* `overflowed_of_mem`: all stages but the last were left because of an overflow;
* `retries_conserve`: however often a transfer retries, and however it ends, no byte is lost or
  moved twice.
-/

namespace RecordLayer

theorem Buffer.Reads.eq_advanced {b left : Buffer} {bs : Bytes} (h : b.Reads bs left) :
    left = { b with position := b.position + bs.length } := by
  obtain ⟨storage, position, limit⟩ := left
  have hstorage : storage = b.storage := h.storage
  have hlimit : limit = b.limit := h.limit
  have hposition : position = b.position + bs.length := h.position
  rw [hstorage, hlimit, hposition]

namespace Transfer

variable {σ : Type} {E : Engine σ} {direction : Direction} {t next : Transfer σ} {r : Report}

/-! ### Stages -/

/-- What a transfer goes on with, if its next call is accepted and overflows. -/
def retried? (E : Engine σ) (direction : Direction) (t : Transfer σ) : Option (Transfer σ) :=
  match (attempt E direction t).verdict with
  | .done r => if r.status = .overflow then some (grow E (attempt E direction t).state) else none
  | .failed _ | .unfinished => none

/-- The transfers at which the calls are made, as far as the budget goes. -/
def stages (E : Engine σ) (direction : Direction) : Nat → Transfer σ → List (Transfer σ)
  | 0, _ => []
  | budget + 1, t =>
    t :: match retried? E direction t with
      | some next => stages E direction budget next
      | none => []

theorem stages_of_retry (h : retried? E direction t = some next) (budget : Nat) :
    stages E direction (budget + 1) t = t :: stages E direction budget next := by
  simp only [stages, h]

theorem stages_of_last (h : retried? E direction t = none) (budget : Nat) :
    stages E direction (budget + 1) t = [t] := by
  simp only [stages, h]

theorem retried?_eq_some_iff :
    retried? E direction t = some next ↔
      ∃ r, (attempt E direction t).verdict = .done r ∧ r.status = .overflow ∧
        grow E (attempt E direction t).state = next := by
  rw [retried?]
  cases (attempt E direction t).verdict with
  | done r =>
    by_cases hoverflow : r.status = .overflow
    · simp [hoverflow]
    · simp [hoverflow]
  | failed e => simp
  | unfinished => simp

theorem retried?_eq_none_of_done (hdone : (attempt E direction t).verdict = .done r) :
    retried? E direction t = none ↔ r.status ≠ .overflow := by
  rw [retried?, hdone]
  by_cases hoverflow : r.status = .overflow
  · simp [hoverflow]
  · simp [hoverflow]

theorem exchange_of_retry (h : retried? E direction t = some next) (budget : Nat) :
    exchange E direction (budget + 1) t =
      ((exchange E direction budget next).after
        [.grown direction (attempt E direction t).state.destination.capacity
          (E.sessionSize (attempt E direction t).state.engine +
            (attempt E direction t).state.destination.position)]).after
        (attempt E direction t).events := by
  obtain ⟨r, hdone, hoverflow, rfl⟩ := retried?_eq_some_iff.mp h
  rw [exchange, Outcome.andThen_done hdone, if_pos hoverflow]

theorem exchange_of_last (h : retried? E direction t = none) (budget : Nat) :
    exchange E direction (budget + 1) t = attempt E direction t := by
  rw [exchange]
  rcases hattempt : attempt E direction t with ⟨left, events, r | e | _⟩
  · have hother : r.status ≠ .overflow := by
      have hdone : (attempt E direction t).verdict = .done r := by rw [hattempt]
      exact (retried?_eq_none_of_done hdone).mp h
    simp only [Outcome.andThen, if_neg hother, List.append_nil]
  · rfl
  · rfl

theorem calls_exchange (E : Engine σ) (direction : Direction) (budget : Nat) (t : Transfer σ) :
    calls (exchange E direction budget t).events =
      (stages E direction budget t).map (nextCall E direction) := by
  induction budget generalizing t with
  | zero => rfl
  | succ budget ih =>
    cases hretry : retried? E direction t with
    | some next =>
      rw [exchange_of_retry hretry, stages_of_retry hretry]
      simp only [Outcome.events_after, events_attempt, calls_cons, ih, List.map_cons,
        List.nil_append, List.singleton_append]
    | none =>
      rw [exchange_of_last hretry, stages_of_last hretry, events_attempt]
      rfl

theorem calls_run (E : Engine σ) (direction : Direction) (budget : Nat) (t : Transfer σ) :
    calls (run E direction budget t).events =
      (stages E direction budget t).map (nextCall E direction) := by
  rw [run, ← calls_exchange]
  rcases Outcome.andThen_cases (exchange E direction budget t) (finish E budget) with
    ⟨r, -, h⟩ | ⟨-, hevents, -⟩
  · rw [h, Outcome.events_after, calls_append, calls_finish, List.append_nil]
  · rw [hevents]

theorem wellFormed_retry (ht : t.WellFormed) (h : retried? E direction t = some next) :
    next.WellFormed := by
  obtain ⟨r, -, -, rfl⟩ := retried?_eq_some_iff.mp h
  exact wellFormed_grow E (wellFormed_attempt E direction ht)

/-- What holds at the start and after each retry holds at every stage. -/
theorem forall_mem_stages {I : Transfer σ → Prop}
    (hstep : ∀ t next, I t → retried? E direction t = some next → I next) (h : I t)
    (budget : Nat) : ∀ s ∈ stages E direction budget t, I s := by
  induction budget generalizing t with
  | zero => exact List.forall_mem_nil _
  | succ budget ih =>
    cases hretry : retried? E direction t with
    | some next =>
      rw [stages_of_retry hretry, List.forall_mem_cons]
      exact ⟨h, ih (hstep t next h hretry)⟩
    | none =>
      rw [stages_of_last hretry, List.forall_mem_singleton]
      exact h

theorem wellFormed_stages (ht : t.WellFormed) (budget : Nat) :
    ∀ s ∈ stages E direction budget t, s.WellFormed :=
  forall_mem_stages (fun _ _ => wellFormed_retry) ht budget

/-- A transfer goes on only after an overflow. -/
theorem overflowed_of_mem (E : Engine σ) (direction : Direction) (budget : Nat) (t : Transfer σ) :
    ∀ s ∈ (stages E direction budget t).dropLast,
      ∃ r, (attempt E direction s).verdict = .done r ∧ r.status = .overflow := by
  induction budget generalizing t with
  | zero => exact List.forall_mem_nil _
  | succ budget ih =>
    cases hretry : retried? E direction t with
    | some next =>
      obtain ⟨r, hdone, hoverflow, -⟩ := retried?_eq_some_iff.mp hretry
      rw [stages_of_retry hretry]
      by_cases hnone : stages E direction budget next = []
      · rw [hnone]
        exact List.forall_mem_nil _
      · rw [List.dropLast_cons_of_ne_nil hnone, List.forall_mem_cons]
        exact ⟨⟨r, hdone, hoverflow⟩, ih next⟩
    | none =>
      rw [stages_of_last hretry]
      exact List.forall_mem_nil _

/-- A transfer that succeeds does so at its last stage. -/
theorem exists_last_of_done {budget : Nat} (h : (exchange E direction budget t).verdict = .done r) :
    ∃ last, (stages E direction budget t).getLast? = some last ∧
      (attempt E direction last).verdict = .done r ∧ r.status ≠ .overflow := by
  induction budget generalizing t with
  | zero => cases h
  | succ budget ih =>
    cases hretry : retried? E direction t with
    | some next =>
      rw [exchange_of_retry hretry] at h
      obtain ⟨last, hlast, hdone, hother⟩ := ih h
      refine ⟨last, ?_, hdone, hother⟩
      rw [stages_of_retry hretry, List.getLast?_cons, hlast]
      rfl
    | none =>
      rw [exchange_of_last hretry] at h
      rw [stages_of_last hretry]
      exact ⟨t, rfl, h, (retried?_eq_none_of_done h).mp hretry⟩

/-- A transfer whose calls fail does so at its last stage. -/
theorem exists_last_of_failed {budget : Nat} {e : EngineError}
    (h : (exchange E direction budget t).verdict = .failed e) :
    ∃ last, (stages E direction budget t).getLast? = some last ∧
      (nextCall E direction last).failure? = some e := by
  induction budget generalizing t with
  | zero => cases h
  | succ budget ih =>
    cases hretry : retried? E direction t with
    | some next =>
      rw [exchange_of_retry hretry] at h
      obtain ⟨last, hlast, hfailure⟩ := ih h
      refine ⟨last, ?_, hfailure⟩
      rw [stages_of_retry hretry, List.getLast?_cons, hlast]
      rfl
    | none =>
      rw [exchange_of_last hretry] at h
      refine ⟨t, by rw [stages_of_last hretry]; rfl, ?_⟩
      rcases attempt_cases E direction t with ⟨r, _, _, -, -, -, hattempt⟩ | ⟨e', hfailure, hattempt⟩
      · rw [hattempt] at h
        cases h
      · rw [hattempt] at h
        cases h
        exact hfailure

theorem accepted?_of_done (hs : t.source.WellFormed)
    (hdone : (attempt E direction t).verdict = .done r) :
    (nextCall E direction t).accepted? = some r := by
  rcases attempt_cases E direction t with
    ⟨r', source, destination, hreport, hsource, hdest, h⟩ | ⟨e, -, h⟩
  · rw [h] at hdone
    cases hdone
    exact nextCall_accepted? hs hreport (Buffer.le_remaining_of_advance hsource)
      (Buffer.le_remaining_of_advance hdest)
  · rw [h] at hdone
    cases hdone

/-- Counts that stay inside the regions are accepted. -/
theorem attempt_of_counts (hreport : (answer E direction t).report = .ok r)
    (hconsumed : r.consumed ≤ t.source.remaining)
    (hproduced : r.produced ≤ t.destination.remaining) :
    (attempt E direction t).verdict = .done r := by
  have hcall : (nextCall E direction t).report = .ok r := hreport
  rcases attempt_cases E direction t with ⟨r', _, _, hr', -, -, h⟩ | ⟨e, hfailure, -⟩
  · rw [h, Except.ok.inj (hcall.symm.trans hr')]
  · have hcounts : r.consumed ≤ (nextCall E direction t).reading.remaining ∧
        r.produced ≤ (nextCall E direction t).room := ⟨hconsumed, hproduced⟩
    simp only [Call.failure?, hcall, if_pos hcounts, reduceCtorEq] at hfailure

/-! ### What retries keep -/

/-- The storage of a destination never becomes smaller, from call to call and to the end. -/
theorem capacities_exchange (E : Engine σ) (direction : Direction) (budget : Nat)
    {t : Transfer σ} (ht : t.WellFormed) :
    (t.destination.capacity ::
      ((stages E direction budget t).map (nextCall E direction)).map (·.writing.capacity) ++
        [(exchange E direction budget t).state.destination.capacity]).Pairwise (· ≤ ·) := by
  induction budget generalizing t with
  | zero => simp [stages, exchange]
  | succ budget ih =>
    have hfilled : (nextCall E direction t).writing.capacity = t.destination.capacity :=
      Buffer.capacity_fill ht.destination _
    have hmoved := (attempt_moved E direction ht.source ht.destination).destination.capacity
    cases hretry : retried? E direction t with
    | some next =>
      have hrest := ih (wellFormed_retry ht hretry)
      have hgrown : t.destination.capacity ≤ next.destination.capacity := by
        obtain ⟨r, -, -, rfl⟩ := retried?_eq_some_iff.mp hretry
        have hwf := (wellFormed_attempt E direction ht).destination
        exact Nat.le_trans hmoved (grow_moved E direction hwf).destination.capacity
      rw [exchange_of_retry hretry, stages_of_retry hretry]
      simp only [List.map_cons, List.cons_append, List.pairwise_cons, Outcome.state_after,
        hfilled] at hrest ⊢
      have hall : ∀ capacity ∈ ((stages E direction budget next).map (nextCall E direction)).map
          (·.writing.capacity) ++ [(exchange E direction budget next).state.destination.capacity],
          t.destination.capacity ≤ capacity :=
        fun capacity hmem => Nat.le_trans hgrown (hrest.1 capacity hmem)
      exact ⟨List.forall_mem_cons.mpr ⟨Nat.le_refl _, hall⟩, hall, hrest.2⟩
    | none =>
      rw [exchange_of_last hretry, stages_of_last hretry]
      simp [hfilled, hmoved]

theorem finish_destination (E : Engine σ) (budget : Nat) (t : Transfer σ) (r : Report) :
    (finish E budget t r).state.destination = t.destination := by
  rw [finish, Outcome.state_after]
  split
  · rfl
  · rfl

theorem run_destination (E : Engine σ) (direction : Direction) (budget : Nat) (t : Transfer σ) :
    (run E direction budget t).state.destination =
      (exchange E direction budget t).state.destination := by
  rw [run]
  rcases Outcome.andThen_cases (exchange E direction budget t) (finish E budget) with
    ⟨r, -, h⟩ | ⟨hstate, -, -⟩
  · rw [h, Outcome.state_after, finish_destination]
  · rw [hstate]

theorem exchange_done_of_run {budget : Nat} (h : (run E direction budget t).verdict = .done r) :
    (exchange E direction budget t).verdict = .done r := by
  rw [run] at h
  obtain ⟨r', hfirst, hrest, -⟩ := Outcome.exists_of_andThen_done h
  rw [finish_done hrest]
  exact hfirst

/-- However a transfer ends, its source has only been advanced, by what the accepted calls took, and
its destination holds what it held, followed by what they gave. Every call was given what the ones
before it had left of the source, and the storage of the destination never became smaller. All calls
but the last were accepted and overflowed; the last one did not if the transfer succeeds, and then
its report is returned. -/
theorem retries_conserve (E : Engine σ) (direction : Direction) (budget : Nat) {t : Transfer σ}
    (ht : t.WellFormed) :
    let o := run E direction budget t
    let cs := calls o.events
    o.state.source = { t.source with position := t.source.position + taken direction cs } ∧
    (∀ earlier call later, cs = earlier ++ call :: later → call.direction = direction ∧
      call.source = t.source.region.drop (taken direction earlier)) ∧
    o.state.destination.WellFormed ∧
    o.state.destination.held = t.destination.held ++ produced direction cs ∧
    (t.destination.capacity :: cs.map (·.writing.capacity) ++
      [o.state.destination.capacity]).Pairwise (· ≤ ·) ∧
    (∀ call ∈ cs.dropLast, ∃ r, call.accepted? = some r ∧ r.status = .overflow) ∧
    ∀ r, o.verdict = .done r →
      ∃ last, cs.getLast? = some last ∧ last.accepted? = some r ∧ r.status ≠ .overflow := by
  intro o cs
  have hmoved : Moved direction t cs o.state :=
    run_moved E direction budget ht.source ht.destination
  have hcalls : cs = (stages E direction budget t).map (nextCall E direction) :=
    calls_run E direction budget t
  have hstages : ∀ s ∈ stages E direction budget t, s.WellFormed := wellFormed_stages ht budget
  refine ⟨?_, ?_, hmoved.destination.wellFormed, hmoved.destination.held, ?_, ?_, ?_⟩
  · rw [← length_consumed]
    exact hmoved.source.eq_advanced
  · intro earlier call later hsplit
    have hdirection : call.direction = direction :=
      hmoved.directed call (hsplit ▸ List.mem_append_right _ List.mem_cons_self)
    refine ⟨hdirection, ?_⟩
    rw [← length_consumed]
    exact hmoved.readsFrom earlier call later hsplit hdirection
  · rw [hcalls, run_destination]
    exact capacities_exchange E direction budget ht
  · intro call hcall
    rw [hcalls, ← List.map_dropLast, List.mem_map] at hcall
    obtain ⟨s, hs, rfl⟩ := hcall
    obtain ⟨r, hdone, hoverflow⟩ := overflowed_of_mem E direction budget t s hs
    have hwf := hstages s ((List.dropLast_sublist _).subset hs)
    exact ⟨r, accepted?_of_done hwf.source hdone, hoverflow⟩
  · intro r hdone
    obtain ⟨last, hlast, hlastDone, hother⟩ := exists_last_of_done (exchange_done_of_run hdone)
    have hwf := hstages last (List.mem_of_getLast? hlast)
    refine ⟨nextCall E direction last, ?_, accepted?_of_done hwf.source hlastDone, hother⟩
    rw [hcalls, List.getLast?_map, hlast]
    rfl

/-- Two overflows and a success, and then the tasks: without any the transfer succeeds, and a task
that fails ends it in the same place. -/
theorem retries_conserve_behind_overflows :
    let start (tasks : List (Option String)) : Transfer Scripted :=
      ⟨{ statuses := [.needTask]
         tasks
         unwraps := [.give .overflow (some 3) (.repeated 4),
          .give .overflow (some 0) (.repeated 32), .give .ok (some 2) (.repeated 20)] },
        .ofBytes [99, 105, 112, 104, 101], .withCapacity 4⟩
    let done := run Scripted.engine .unwrap 9 (start [])
    let failed := run Scripted.engine .unwrap 9 (start [none, some "unknown issuer"])
    ((start []).WellFormed ∧ done.verdict = .done ⟨.ok, 2, 20⟩ ∧
      ∃ last, (calls done.events).getLast? = some last ∧ last.accepted? = some ⟨.ok, 2, 20⟩) ∧
    failed.verdict = .failed (.task "unknown issuer") ∧
    failed.state.source = { storage := [99, 105, 112, 104, 101], position := 5, limit := 5 } ∧
    failed.state.destination.held = List.replicate 56 35 := by
  intro start done failed
  have hwf : ∀ tasks, (start tasks).WellFormed := fun tasks =>
    ⟨Buffer.wellFormed_ofBytes _, Buffer.wellFormed_withCapacity _⟩
  have hdone : done.verdict = .done ⟨.ok, 2, 20⟩ := by decide +kernel
  have hkept := retries_conserve Scripted.engine .unwrap 9 (hwf [])
  have hkept' := retries_conserve Scripted.engine .unwrap 9 (hwf [none, some "unknown issuer"])
  obtain ⟨last, hlast, haccepted, -⟩ := hkept.2.2.2.2.2.2 _ hdone
  have hsource := hkept'.1
  have hheld := hkept'.2.2.2.1
  refine ⟨⟨hwf [], hdone, last, hlast, haccepted⟩, by decide +kernel, ?_, ?_⟩
  · rw [hsource]
    decide +kernel
  · rw [hheld]
    decide +kernel

end Transfer

end RecordLayer
