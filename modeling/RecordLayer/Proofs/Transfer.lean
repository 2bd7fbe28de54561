import RecordLayer.Proofs.Failure
import RecordLayer.Proofs.Flow
import RecordLayer.Proofs.Outcome
import RecordLayer.Transfer

/-!
# What a transfer does to its buffers

However many calls a transfer makes and however it ends, the source has lost exactly the bytes that
the accepted calls took, and the destination has gained exactly those that they gave.

* `Transfer.attempt_cases` says all that one call can come to;
* `Transfer.Moved` is the account of a stretch of calls, and `Moved.trans` adds two of them up;
* `Transfer.run_moved` and `Transfer.run_stopsAtFailure` are about whole transfers, and
  `Transfer.run_returns` about the report that they come back with;
* `Transfer.exchange_ensures` is the rule for loops: an invariant of the calls that overflow leads to
  what the last call ensures. `Transfer.attempt_ensures` is about one call with an honest answer.
-/

namespace RecordLayer.Transfer

variable {σ : Type}

/-- What the engine answers to the next call of a transfer. -/
def answer (E : Engine σ) (direction : Direction) (t : Transfer σ) : Answer σ :=
  E.call direction t.engine t.source.region t.destination.region

/-- The next call of a transfer. -/
def nextCall (E : Engine σ) (direction : Direction) (t : Transfer σ) : Call where
  direction := direction
  reading := t.source
  writing := t.destination.fill (answer E direction t).written
  report := (answer E direction t).report

/-- A call is accepted and moves both cursors, or it fails and moves none. -/
theorem attempt_cases (E : Engine σ) (direction : Direction) (t : Transfer σ) :
    (∃ r source destination,
      (nextCall E direction t).report = .ok r ∧
      t.source.advance? r.consumed = some source ∧
      (nextCall E direction t).writing.advance? r.produced = some destination ∧
      attempt E direction t =
        ⟨⟨(answer E direction t).engine, source, destination⟩,
          [.call (nextCall E direction t)], .done r⟩) ∨
    ∃ e, (nextCall E direction t).failure? = some e ∧
      attempt E direction t =
        ⟨⟨(answer E direction t).engine, t.source, (nextCall E direction t).writing⟩,
          [.call (nextCall E direction t)], .failed e⟩ := by
  cases hreport : (answer E direction t).report with
  | error e =>
    refine .inr ⟨e, by simp only [Call.failure?, nextCall, hreport], ?_⟩
    rw [answer] at hreport
    simp only [attempt, hreport, nextCall, answer]
  | ok r =>
    have hfailure : (nextCall E direction t).failure? =
        if r.consumed ≤ t.source.remaining ∧ r.produced ≤ (nextCall E direction t).room then none
        else some (.misbehaved (.overreported direction r.consumed r.produced
          t.source.remaining (nextCall E direction t).room)) := by
      simp only [Call.failure?, nextCall, hreport]
    rw [hfailure]
    cases hsource : t.source.advance? r.consumed with
    | none =>
      have hlong := (Buffer.advance?_eq_none_iff _ _).mp hsource
      refine .inr ⟨_, if_neg fun h => Nat.not_le.mpr hlong h.1, ?_⟩
      rw [answer] at hreport
      simp only [attempt, hreport, hsource, nextCall, answer]
      rfl
    | some source =>
      cases hdest : (nextCall E direction t).writing.advance? r.produced with
      | none =>
        have hlong := (Buffer.advance?_eq_none_iff _ _).mp hdest
        refine .inr ⟨_, if_neg fun h => Nat.not_le.mpr hlong h.2, ?_⟩
        simp only [nextCall, answer] at hdest hreport
        simp only [attempt, hreport, hsource, hdest, nextCall, answer]
        rfl
      | some destination =>
        refine .inl ⟨r, source, destination, hreport, hsource, hdest, ?_⟩
        simp only [nextCall, answer] at hdest hreport
        simp only [attempt, hreport, hsource, hdest, nextCall, answer]

/-- A call that is accepted has reported what the cursors then follow. -/
theorem attempt_done {E : Engine σ} {direction : Direction} {t : Transfer σ} {r : Report}
    (h : (attempt E direction t).verdict = .done r) :
    (answer E direction t).report = .ok r ∧
      (attempt E direction t).state.engine = (answer E direction t).engine ∧
      t.source.advance? r.consumed = some (attempt E direction t).state.source := by
  rcases attempt_cases E direction t with
    ⟨r', source, destination, hreport, hsource, -, hdone⟩ | ⟨e, -, hfailed⟩
  · rw [hdone] at h ⊢
    cases h
    exact ⟨hreport, rfl, hsource⟩
  · rw [hfailed] at h
    cases h

theorem events_attempt (E : Engine σ) (direction : Direction) (t : Transfer σ) :
    (attempt E direction t).events = [.call (nextCall E direction t)] := by
  rcases attempt_cases E direction t with ⟨_, _, _, -, -, -, h⟩ | ⟨_, -, h⟩ <;> rw [h]

/-- A transfer starts with a call, unless it has no budget. -/
theorem run_starts (E : Engine σ) (direction : Direction) (budget : Nat) (t : Transfer σ) :
    [.call (nextCall E direction t)] <+: (run E direction (budget + 1) t).events := by
  rw [run, exchange, ← events_attempt]
  exact (Outcome.prefix_andThen _ _).trans (Outcome.prefix_andThen _ _)

/-! ### The account of a stretch of calls -/

/-- The calls took the front of the source and gave what was added to the destination, and each of
them was given what the ones before it had left. -/
structure Moved (direction : Direction) (t : Transfer σ) (cs : List Call) (left : Transfer σ) :
    Prop where
  directed : Directed direction cs
  wellFormed : ∀ c ∈ cs, c.reading.WellFormed ∧ c.writing.WellFormed
  readsFrom : ReadsFrom direction t.source.region cs
  source : t.source.Reads (consumed direction cs) left.source
  destination : t.destination.Gains (produced direction cs) left.destination

theorem Moved.refl (direction : Direction) {t : Transfer σ} (h : t.destination.WellFormed) :
    Moved direction t [] t where
  directed := nofun
  wellFormed := nofun
  readsFrom := readsFrom_nil _ _
  source := .refl _
  destination := .refl h

theorem Moved.trans {direction : Direction} {a b c : Transfer σ} {xs ys : List Call}
    (h : Moved direction a xs b) (h' : Moved direction b ys c) :
    Moved direction a (xs ++ ys) c where
  directed := h.directed.append h'.directed
  wellFormed := by
    intro call hcall
    rcases List.mem_append.mp hcall with hcall | hcall
    · exact h.wellFormed call hcall
    · exact h'.wellFormed call hcall
  readsFrom := by
    apply h.readsFrom.append
    rw [← h.source.region_eq_drop]
    exact h'.readsFrom
  source := by
    rw [consumed_append]
    exact h.source.trans h'.source
  destination := by
    rw [produced_append]
    exact h.destination.trans h'.destination

theorem Moved.of_call {call : Call} {t left : Transfer σ} (hreading : call.reading = t.source)
    (hs : t.source.WellFormed) (hwriting : call.writing.WellFormed)
    (source : t.source.Reads call.consumed left.source)
    (destination : t.destination.Gains call.produced left.destination) :
    Moved call.direction t [call] left where
  directed := by
    intro c hc
    rw [List.mem_singleton.mp hc]
  wellFormed := by
    intro c hc
    rw [List.mem_singleton.mp hc, hreading]
    exact ⟨hs, hwriting⟩
  readsFrom := readsFrom_singleton (by rw [Call.source, hreading])
  source := by
    rw [consumed_singleton]
    exact source
  destination := by
    rw [produced_singleton]
    exact destination

theorem nextCall_accepted? {E : Engine σ} {direction : Direction} {t : Transfer σ} {r : Report}
    (hs : t.source.WellFormed) (hreport : (nextCall E direction t).report = .ok r)
    (hsource : r.consumed ≤ t.source.remaining) (hdest : r.produced ≤ (nextCall E direction t).room) :
    (nextCall E direction t).accepted? = some r := by
  have hlen : (nextCall E direction t).source.length = t.source.remaining :=
    Buffer.length_region hs
  rw [Call.accepted?, hreport, hlen]
  exact if_pos ⟨hsource, hdest⟩

theorem attempt_moved (E : Engine σ) (direction : Direction) {t : Transfer σ}
    (hs : t.source.WellFormed) (hd : t.destination.WellFormed) :
    Moved direction t (calls (attempt E direction t).events) (attempt E direction t).state := by
  have hfill : t.destination.Gains [] (nextCall E direction t).writing :=
    .of_fill hd (answer E direction t).written
  rcases attempt_cases E direction t with
    ⟨r, source, destination, hreport, hsource, hdest, h⟩ | ⟨e, hfail, h⟩
  · have haccepted := nextCall_accepted? hs hreport (Buffer.le_remaining_of_advance hsource)
      (Buffer.le_remaining_of_advance hdest)
    have hconsumed : (nextCall E direction t).consumed = t.source.region.take r.consumed := by
      rw [Call.consumed, haccepted]
      rfl
    have hproduced : (nextCall E direction t).produced =
        (nextCall E direction t).writing.region.take r.produced := by
      rw [Call.produced, haccepted]
      rfl
    rw [h]
    apply Moved.of_call rfl hs hfill.wellFormed
    · rw [hconsumed]
      exact .of_advance hs hsource
    · rw [hproduced]
      exact hfill.trans (.of_advance hfill.wellFormed hdest)
  · have hreading : (nextCall E direction t).reading.WellFormed := hs
    have haccepted := Call.accepted?_of_failure? hreading hfail
    rw [h]
    apply Moved.of_call rfl hs hfill.wellFormed
    · rw [Call.consumed, haccepted]
      exact .refl _
    · rw [Call.produced, haccepted]
      exact hfill

theorem grow_moved (E : Engine σ) (direction : Direction) {t : Transfer σ}
    (h : t.destination.WellFormed) : Moved direction t [] (grow E t) where
  directed := nofun
  wellFormed := nofun
  readsFrom := readsFrom_nil _ _
  source := .refl _
  destination := .of_resize h (Nat.le_add_left _ _)

/-- Both buffers have their cursors in order. -/
structure WellFormed (t : Transfer σ) : Prop where
  source : t.source.WellFormed
  destination : t.destination.WellFormed

theorem wellFormed_attempt (E : Engine σ) (direction : Direction) {t : Transfer σ}
    (h : t.WellFormed) : (attempt E direction t).state.WellFormed := by
  have hm := attempt_moved E direction h.source h.destination
  exact ⟨hm.source.wellFormed h.source, hm.destination.wellFormed⟩

theorem wellFormed_grow (E : Engine σ) {t : Transfer σ} (h : t.WellFormed) :
    (grow E t).WellFormed :=
  ⟨h.source, Buffer.wellFormed_resize h.destination _⟩

/-- A destination that has grown has as much room as a session asks for. -/
theorem remaining_grown (E : Engine σ) {t : Transfer σ} (h : t.destination.WellFormed) :
    (grow E t).destination.remaining = E.sessionSize t.engine := by
  show (t.destination.resize (E.sessionSize t.engine + t.destination.position)).limit -
    (t.destination.resize (E.sessionSize t.engine + t.destination.position)).position = _
  rw [Buffer.limit_resize, Buffer.position_resize h]
  omega

theorem held_grow (E : Engine σ) {t : Transfer σ} (h : t.destination.WellFormed) :
    (grow E t).destination.held = t.destination.held := by
  rw [(grow_moved E .wrap h).destination.held]
  exact List.append_nil _

/-- By induction on the budget: one call, and after an overflow the account of the rest. -/
theorem exchange_moved (E : Engine σ) (direction : Direction) (budget : Nat) {t : Transfer σ}
    (hs : t.source.WellFormed) (hd : t.destination.WellFormed) :
    Moved direction t (calls (exchange E direction budget t).events)
      (exchange E direction budget t).state := by
  induction budget generalizing t with
  | zero => exact .refl direction hd
  | succ budget ih =>
    have hfirst := attempt_moved E direction hs hd
    have hs' := hfirst.source.wellFormed hs
    have hd' := hfirst.destination.wellFormed
    rw [exchange]
    rcases Outcome.andThen_cases (attempt E direction t) _ with ⟨r, -, h⟩ | ⟨hstate, hevents, -⟩
    · rw [h]
      split
      · have hgrow := grow_moved E direction hd'
        have hrest := ih (t := grow E (attempt E direction t).state) hs' hgrow.destination.wellFormed
        have hall := hfirst.trans (hgrow.trans hrest)
        simpa only [Outcome.events_after, Outcome.state_after, calls_append, calls_cons, calls_nil,
          List.nil_append] using hall
      · simpa only [Outcome.events_after, Outcome.state_after, List.append_nil] using hfirst
    · rw [hstate, hevents]
      exact hfirst

theorem calls_runTasks (E : Engine σ) (budget executed : Nat) (s : σ) :
    calls (runTasks E budget executed s).events = [] := by
  induction budget generalizing executed s with
  | zero => rfl
  | succ budget ih =>
    rw [runTasks]
    split
    · rfl
    · split
      · rfl
      · rw [Outcome.events_after, calls_append, ih]
        rfl

theorem calls_finish (E : Engine σ) (budget : Nat) (t : Transfer σ) (r : Report) :
    calls (finish E budget t r).events = [] := by
  rw [finish, Outcome.events_after, calls_append]
  split
  · exact calls_runTasks E budget 0 t.engine
  · rfl

/-- Tasks leave both buffers alone. -/
theorem finish_moved (E : Engine σ) (direction : Direction) (budget : Nat) {t : Transfer σ}
    (h : t.destination.WellFormed) (r : Report) :
    Moved direction t [] (finish E budget t r).state := by
  rw [finish, Outcome.state_after]
  split
  · exact ⟨nofun, nofun, readsFrom_nil _ _, .refl _, .refl h⟩
  · exact .refl direction h

theorem run_moved (E : Engine σ) (direction : Direction) (budget : Nat) {t : Transfer σ}
    (hs : t.source.WellFormed) (hd : t.destination.WellFormed) :
    Moved direction t (calls (run E direction budget t).events) (run E direction budget t).state := by
  have hfirst := exchange_moved E direction budget hs hd
  rw [run]
  rcases Outcome.andThen_cases (exchange E direction budget t) (finish E budget) with
    ⟨r, -, h⟩ | ⟨hstate, hevents, -⟩
  · have hrest := finish_moved E direction budget hfirst.destination.wellFormed r
    rw [h, Outcome.events_after, Outcome.state_after, calls_append, calls_finish]
    exact hfirst.trans hrest
  · rw [hstate, hevents]
    exact hfirst

/-! ### The first failure of a transfer -/

theorem attempt_stopsAtFailure (E : Engine σ) (direction : Direction) (t : Transfer σ) :
    (attempt E direction t).StopsAtFailure := by
  rcases attempt_cases E direction t with
    ⟨r, source, destination, hreport, hsource, hdest, h⟩ | ⟨e, hfail, h⟩
  · rw [h]
    refine Outcome.stopsAtFailure_of_smooth (smooth_cons ?_ smooth_nil) nofun
    show (nextCall E direction t).failure? = none
    rw [Call.failure?, hreport]
    exact if_pos ⟨Buffer.le_remaining_of_advance hsource, Buffer.le_remaining_of_advance hdest⟩
  · rw [h]
    exact ⟨[], _, rfl, hfail, smooth_nil⟩

theorem exchange_stopsAtFailure (E : Engine σ) (direction : Direction) (budget : Nat)
    (t : Transfer σ) : (exchange E direction budget t).StopsAtFailure := by
  induction budget generalizing t with
  | zero => exact smooth_nil
  | succ budget ih =>
    rw [exchange]
    apply (attempt_stopsAtFailure E direction t).andThen
    intro r _
    split
    · exact (ih _).after (smooth_cons rfl smooth_nil)
    · exact smooth_nil

theorem runTasks_stopsAtFailure (E : Engine σ) (budget executed : Nat) (s : σ) :
    (runTasks E budget executed s).StopsAtFailure := by
  induction budget generalizing executed s with
  | zero => exact smooth_nil
  | succ budget ih =>
    rw [runTasks]
    split
    · exact smooth_cons rfl (smooth_cons rfl smooth_nil)
    · split
      · next e _ => exact ⟨[.fetched true], .ran (some e), rfl, rfl, smooth_cons rfl smooth_nil⟩
      · exact (ih _ _).after (smooth_cons rfl (smooth_cons rfl smooth_nil))

theorem finish_stopsAtFailure (E : Engine σ) (budget : Nat) (t : Transfer σ) (r : Report) :
    (finish E budget t r).StopsAtFailure := by
  rw [finish]
  apply Outcome.StopsAtFailure.after _ (smooth_cons rfl smooth_nil)
  split
  · exact ((runTasks_stopsAtFailure E budget 0 _).mapState _).map _
  · exact smooth_nil

theorem run_stopsAtFailure (E : Engine σ) (direction : Direction) (budget : Nat)
    (t : Transfer σ) : (run E direction budget t).StopsAtFailure := by
  rw [run]
  apply (exchange_stopsAtFailure E direction budget t).andThen
  intro r _
  exact finish_stopsAtFailure E budget _ r

/-! ### What a transfer returns -/

/-- What comes back is the report of the last call. -/
def Returns (o : Outcome (Transfer σ) EngineError Report) : Prop :=
  ∀ r, o.verdict = .done r → ∃ earlier last, calls o.events = earlier ++ [last] ∧ last.report = .ok r

theorem exchange_returns (E : Engine σ) (direction : Direction) (budget : Nat) (t : Transfer σ) :
    Returns (exchange E direction budget t) := by
  induction budget generalizing t with
  | zero => exact nofun
  | succ budget ih =>
    intro r hdone
    rw [exchange] at hdone ⊢
    obtain ⟨r', hfirst, hrest, heq⟩ := Outcome.exists_of_andThen_done hdone
    rw [heq, Outcome.events_after, calls_append, events_attempt]
    split at hrest
    · next hoverflow =>
      obtain ⟨earlier, last, hcalls, hlast⟩ := ih _ r hrest
      refine ⟨nextCall E direction t :: earlier, last, ?_, hlast⟩
      rw [if_pos hoverflow, Outcome.events_after, calls_append, hcalls]
      rfl
    · next hother =>
      cases hrest
      exact ⟨[], nextCall E direction t, by rw [if_neg hother]; rfl, (attempt_done hfirst).1⟩

theorem finish_done {E : Engine σ} {budget : Nat} {t : Transfer σ} {r r' : Report}
    (h : (finish E budget t r).verdict = .done r') : r' = r := by
  rw [finish, Outcome.verdict_after] at h
  split at h
  · rw [Outcome.map] at h
    cases hv : ((runTasks E budget 0 t.engine).mapState fun s => { t with engine := s }).verdict <;>
      rw [hv] at h <;> cases h
    rfl
  · cases h
    rfl

theorem run_returns (E : Engine σ) (direction : Direction) (budget : Nat) (t : Transfer σ) :
    Returns (run E direction budget t) := by
  intro r hdone
  rw [run] at hdone ⊢
  obtain ⟨r', hfirst, hrest, heq⟩ := Outcome.exists_of_andThen_done hdone
  cases finish_done hrest
  rw [heq, Outcome.events_after, calls_append, calls_finish, List.append_nil]
  exact exchange_returns E direction budget t r hfirst

/-! ### What a transfer ensures -/

theorem exchange_ensures {E : Engine σ} {direction : Direction} {I F : Transfer σ → Prop}
    {Q : Transfer σ → Report → Prop} (hF : ∀ t, I t → F t)
    (hcall : ∀ t, I t → (attempt E direction t).Ensures
      (fun t r => if r.status = .overflow then I (grow E t) else Q t r) F)
    (budget : Nat) {t : Transfer σ} (h : I t) : (exchange E direction budget t).Ensures Q F := by
  induction budget generalizing t with
  | zero => exact hF t h
  | succ budget ih =>
    rw [exchange]
    apply (hcall t h).andThen
    intro t r hQ
    split
    · next hoverflow =>
      rw [if_pos hoverflow] at hQ
      exact (ih hQ).after _
    · next hother =>
      rw [if_neg hother] at hQ
      exact hQ

/-- If each overflow makes a measure smaller, a budget beyond it is enough. -/
theorem exchange_terminates {E : Engine σ} {direction : Direction} {I F : Transfer σ → Prop}
    {Q : Transfer σ → Report → Prop} (measure : Transfer σ → Nat)
    (hcall : ∀ t, I t → (attempt E direction t).Ensures
      (fun t' r => if r.status = .overflow then
        I (grow E t') ∧ measure (grow E t') < measure t else Q t' r) F)
    {budget : Nat} {t : Transfer σ} (h : I t) (hbudget : measure t < budget) :
    (exchange E direction budget t).Ensures Q F := by
  induction budget generalizing t with
  | zero => exact absurd hbudget (Nat.not_lt_zero _)
  | succ budget ih =>
    rw [exchange]
    apply (hcall t h).andThen
    intro t' r hQ
    split
    · next hoverflow =>
      rw [if_pos hoverflow] at hQ
      exact (ih hQ.1 (by omega)).after _
    · next hother =>
      rw [if_neg hother] at hQ
      exact hQ

/-- A larger budget changes nothing about a transfer that has ended. -/
theorem exchange_mono (E : Engine σ) (direction : Direction) {budget larger : Nat}
    (hle : budget ≤ larger) {t : Transfer σ}
    (h : (exchange E direction budget t).verdict ≠ .unfinished) :
    exchange E direction larger t = exchange E direction budget t := by
  induction budget generalizing larger t with
  | zero => exact absurd rfl h
  | succ budget ih =>
    obtain ⟨more, rfl⟩ := Nat.exists_eq_add_of_le' (Nat.le_trans (Nat.le_add_left 1 budget) hle)
    rw [exchange] at h ⊢
    rw [exchange]
    cases hv : (attempt E direction t).verdict with
    | done r =>
      rw [Outcome.andThen_done hv] at h ⊢
      rw [Outcome.andThen_done hv]
      split
      · next hoverflow =>
        rw [if_pos hoverflow] at h
        rw [ih (by omega) h]
      · rfl
    | failed e => rw [Outcome.andThen_failed hv, Outcome.andThen_failed hv]
    | unfinished => rw [Outcome.andThen_unfinished hv, Outcome.andThen_unfinished hv]

theorem finish_of_other {E : Engine σ} {t : Transfer σ} (h : E.handshakeStatus t.engine ≠ .needTask)
    (budget : Nat) (r : Report) :
    finish E budget t r = ⟨t, [.status (E.handshakeStatus t.engine)], .done r⟩ := by
  simp only [finish, if_neg h, Outcome.after, List.append_nil]

/-- No task is ever wanted. -/
def Taskless (E : Engine σ) : Prop :=
  ∀ s, E.handshakeStatus s ≠ .needTask

theorem finish_of_taskless {E : Engine σ} (hE : Taskless E) (budget : Nat) (t : Transfer σ)
    (r : Report) : finish E budget t r = ⟨t, [.status (E.handshakeStatus t.engine)], .done r⟩ :=
  finish_of_other (hE t.engine) budget r

theorem run_ensures {E : Engine σ} (hE : Taskless E) {direction : Direction} {budget : Nat}
    {t : Transfer σ} {Q : Transfer σ → Report → Prop} {F : Transfer σ → Prop}
    (h : (exchange E direction budget t).Ensures Q F) : (run E direction budget t).Ensures Q F := by
  rw [run]
  apply h.andThen
  intro t r hQ
  rw [finish_of_taskless hE]
  exact hQ

theorem run_mono {E : Engine σ} (hE : Taskless E) (direction : Direction) {budget larger : Nat}
    (hle : budget ≤ larger) {t : Transfer σ}
    (h : (exchange E direction budget t).verdict ≠ .unfinished) :
    run E direction larger t = run E direction budget t := by
  have hfinish : finish E larger = finish E budget := by
    funext t r
    rw [finish_of_taskless hE, finish_of_taskless hE]
  rw [run, run, exchange_mono E direction hle h, hfinish]

/-- A success reports what was written, and stays inside the regions. -/
def Honest (a : Answer σ) (source : Bytes) (room : Nat) : Prop :=
  ∀ r, a.report = .ok r →
    r.consumed ≤ source.length ∧ r.produced = a.written.length ∧ a.written.length ≤ room

/-- Both cursors follow an honest answer. -/
theorem attempt_ensures {E : Engine σ} {direction : Direction} {t : Transfer σ}
    (hs : t.source.WellFormed) (hd : t.destination.WellFormed)
    (honest : Honest (answer E direction t) t.source.region t.destination.region.length)
    {Q : Transfer σ → Report → Prop} {F : Transfer σ → Prop}
    (hok : ∀ r source destination, (answer E direction t).report = .ok r →
      t.source.Reads (t.source.region.take r.consumed) source →
      t.destination.Gains (answer E direction t).written destination →
      Q ⟨(answer E direction t).engine, source, destination⟩ r)
    (herror : ∀ e destination, (answer E direction t).report = .error e →
      F ⟨(answer E direction t).engine, t.source, destination⟩) :
    (attempt E direction t).Ensures Q F := by
  rcases attempt_cases E direction t with
    ⟨r, source, destination, hreport, hsource, hdest, h⟩ | ⟨e, hfail, h⟩
  · obtain ⟨-, hproduced, hroom⟩ := honest r hreport
    rw [Buffer.length_region hd] at hroom
    rw [hproduced] at hdest
    rw [h]
    exact hok r source destination hreport (.of_advance hs hsource)
      (.of_fill_advance hd hroom hdest)
  · rw [h]
    cases hreport : (answer E direction t).report with
    | error e' => exact herror e' _ hreport
    | ok r =>
      obtain ⟨hconsumed, hproduced, hroom⟩ := honest r hreport
      rw [Buffer.length_region hs] at hconsumed
      rw [Buffer.length_region hd] at hroom
      have hcounts : r.consumed ≤ (nextCall E direction t).reading.remaining ∧
          r.produced ≤ (nextCall E direction t).room := ⟨hconsumed, hproduced ▸ hroom⟩
      have hreport' : (nextCall E direction t).report = .ok r := hreport
      simp only [Call.failure?, hreport', if_pos hcounts, reduceCtorEq] at hfail

end RecordLayer.Transfer
