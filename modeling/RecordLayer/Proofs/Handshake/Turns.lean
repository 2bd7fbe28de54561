import RecordLayer.Engine.Scripted
import RecordLayer.Proofs.Handshake

/-!
# The turns of the handshake driver

In each turn the driver asks the engine for its status, and then makes the operation that the status
calls for or none at all. The status may change with every call and every task, so nothing but the
answer just given decides about an operation.

* `Turn` is one turn: where it starts, what the engine answers, and which way the operation goes;
* `Turn.Obeys` says that the operation is the one that the status calls for;
* `Turn.Idle` and `Turn.Blocked` are the two ways in which a run succeeds;
* `Follows` is the account of a run by its turns, and `drive_follows` gives every run one;
* `drive_obeys_engine` puts it together with what the turns do to the buffers.
-/

namespace RecordLayer

variable {σ : Type}

/-- The value of a success. -/
def Verdict.value? {ε α : Type} : Verdict ε α → Option α
  | .done a => some a
  | .failed _ | .unfinished => none

@[simp] theorem Verdict.value?_eq_some_iff {ε α : Type} {v : Verdict ε α} {a : α} :
    v.value? = some a ↔ v = .done a := by
  cases v <;> simp [value?]

namespace Handshake

/-- An operation of the driver. A wrap goes from scratch to outbound and an unwrap from inbound to
scratch. -/
def operate (E : Engine σ) (budget : Nat) : Direction → Handshake σ →
    Outcome (Handshake σ) EngineError Report
  | .wrap, h => h.wrap E budget
  | .unwrap, h => h.unwrap E budget

theorem operate_moved (E : Engine σ) (budget : Nat) (direction : Direction) {h : Handshake σ}
    (hwf : h.WellFormed) :
    h.Moved (calls (operate E budget direction h).events) (operate E budget direction h).state := by
  cases direction with
  | wrap => exact wrap_moved E budget hwf
  | unwrap => exact unwrap_moved E budget hwf

/-- All calls of an operation go its way. -/
theorem operate_directed (E : Engine σ) (budget : Nat) (direction : Direction) {h : Handshake σ}
    (hwf : h.WellFormed) : Directed direction (calls (operate E budget direction h).events) := by
  cases direction with
  | wrap => exact (Transfer.run_moved E .wrap budget hwf.scratch hwf.outbound).directed
  | unwrap => exact (Transfer.run_moved E .unwrap budget hwf.inbound hwf.scratch).directed

theorem operate_returns (E : Engine σ) (budget : Nat) (direction : Direction) (h : Handshake σ)
    (r : Report) (hdone : (operate E budget direction h).verdict = .done r) :
    ∃ earlier last, calls (operate E budget direction h).events = earlier ++ [last] ∧
      last.report = .ok r := by
  cases direction with
  | wrap => exact Transfer.run_returns E .wrap budget _ r hdone
  | unwrap => exact Transfer.run_returns E .unwrap budget _ r hdone

/-! ### Turns -/

/-- One turn: the state in which the engine is asked, its answer, and the direction of the operation
that follows, if there is one. -/
structure Turn (σ : Type) where
  start : Handshake σ
  seen : HandshakeStatus
  direction : Option Direction

namespace Turn

/-- What the operation of a turn comes to. -/
def outcome? (E : Engine σ) (budget : Nat) (t : Turn σ) :
    Option (Outcome (Handshake σ) EngineError Report) :=
  t.direction.map fun direction => operate E budget direction t.start

/-- The state at the end of a turn. -/
def left (E : Engine σ) (budget : Nat) (t : Turn σ) : Handshake σ :=
  ((t.outcome? E budget).map (·.state)).getD t.start

def events (E : Engine σ) (budget : Nat) (t : Turn σ) : List Event :=
  .turn t.seen :: ((t.outcome? E budget).map (·.events)).getD []

/-- The answer is that of the engine, and the operation is a wrap exactly when it says so and an
unwrap exactly when it says so. -/
structure Obeys (E : Engine σ) (t : Turn σ) : Prop where
  asked : t.seen = E.handshakeStatus t.start.engine
  wrap : t.direction = some .wrap ↔ t.seen = .needWrap
  unwrap : t.direction = some .unwrap ↔ t.seen = .needUnwrap

/-- The engine needs neither direction. -/
def Idle (t : Turn σ) : Prop :=
  t.seen ≠ .needWrap ∧ t.seen ≠ .needUnwrap

/-- The report that the operation of a turn comes back with. -/
def report? (E : Engine σ) (budget : Nat) (t : Turn σ) : Option Report :=
  (t.outcome? E budget).bind (·.verdict.value?)

theorem report?_eq_some_iff {E : Engine σ} {budget : Nat} {t : Turn σ} {direction : Direction}
    (hdirection : t.direction = some direction) (r : Report) :
    t.report? E budget = some r ↔ (operate E budget direction t.start).verdict = .done r := by
  rw [report?, outcome?, hdirection, Option.map_some, Option.bind_some, Verdict.value?_eq_some_iff]

/-- The turn is an unwrap that has come back for want of input or because the peer has closed. -/
def Blocked (E : Engine σ) (budget : Nat) (t : Turn σ) : Prop :=
  t.direction = some .unwrap ∧
    ∃ r, t.report? E budget = some r ∧ (r.status = .underflow ∨ r.status = .closed)

theorem not_blocked_of_wrap {E : Engine σ} {budget : Nat} {t : Turn σ}
    (h : t.direction = some .wrap) : ¬t.Blocked E budget := by
  rintro ⟨hdirection, -⟩
  rw [h] at hdirection
  cases hdirection

/-- The operation of the turn has come back, and neither is the peer closed nor is input missing. -/
def GoesOn (E : Engine σ) (budget : Nat) (t : Turn σ) : Prop :=
  (∃ r, t.report? E budget = some r) ∧ ¬t.Blocked E budget

/-- What a turn does to the buffers, and what the engine reports at the end of it. -/
structure Moves (E : Engine σ) (budget : Nat) (t : Turn σ) : Prop where
  directed : ∀ c ∈ calls (t.events E budget), t.direction = some c.direction
  moved : t.start.Moved (calls (t.events E budget)) (t.left E budget)
  inbound : t.direction ≠ some .unwrap → (t.left E budget).inbound = t.start.inbound
  outbound : t.direction ≠ some .wrap → (t.left E budget).outbound = t.start.outbound
  reported : ∀ r, t.report? E budget = some r → ∃ earlier last,
    calls (t.events E budget) = earlier ++ [last] ∧ last.report = .ok r

theorem moves (E : Engine σ) (budget : Nat) {t : Turn σ} (hwf : t.start.WellFormed) :
    t.Moves E budget := by
  obtain ⟨h, seen, _ | direction⟩ := t
  · exact ⟨nofun, .refl hwf, fun _ => rfl, fun _ => rfl, nofun⟩
  · refine ⟨?_, operate_moved E budget direction hwf, ?_, ?_, ?_⟩
    · intro c hc
      exact congrArg some (operate_directed E budget direction hwf c hc).symm
    · intro hne
      cases direction with
      | wrap => rfl
      | unwrap => exact absurd rfl hne
    · intro hne
      cases direction with
      | wrap => exact absurd rfl hne
      | unwrap => rfl
    · intro r hr
      rw [report?_eq_some_iff rfl] at hr
      exact operate_returns E budget direction h r hr

end Turn

/-- Each turn starts where the one before it has ended. -/
def Linked (E : Engine σ) (budget : Nat) : Handshake σ → List (Turn σ) → Handshake σ → Prop
  | h, [], left => left = h
  | h, t :: ts, left => t.start = h ∧ Linked E budget (t.left E budget) ts left

/-- The last turn ends where the run does. -/
theorem Linked.left_eq {E : Engine σ} {budget : Nat} {h left : Handshake σ} {ts : List (Turn σ)}
    (hlinked : Linked E budget h ts left) {last : Turn σ} (hlast : ts.getLast? = some last) :
    last.left E budget = left := by
  induction ts generalizing h with
  | nil => cases hlast
  | cons t ts ih =>
    obtain ⟨-, hrest⟩ := hlinked
    cases ts with
    | nil =>
      cases hlast
      exact hrest.symm
    | cons t' ts =>
      rw [List.getLast?_cons_cons] at hlast
      exact ih hrest hlast

/-- Along linked turns all buffers keep their cursors in order. -/
theorem Linked.wellFormed {E : Engine σ} {budget : Nat} {h left : Handshake σ} {ts : List (Turn σ)}
    (hlinked : Linked E budget h ts left) (hwf : h.WellFormed) :
    ∀ t ∈ ts, t.start.WellFormed := by
  induction ts generalizing h with
  | nil => nofun
  | cons t ts ih =>
    obtain ⟨rfl, hrest⟩ := hlinked
    rw [List.forall_mem_cons]
    exact ⟨hwf, ih hrest ((Turn.moves E budget hwf).moved.after hwf)⟩

/-! ### Runs as turns -/

/-- The account of a run by its turns: each of them obeys the engine, each but the last goes on, and
the last one decides what the run comes to. -/
structure Follows (E : Engine σ) (budget : Nat) (h : Handshake σ) (ts : List (Turn σ))
    (o : Outcome (Handshake σ) EngineError Unit) : Prop where
  linked : Linked E budget h ts o.state
  events : o.events = ts.flatMap (Turn.events E budget)
  obeys : ∀ t ∈ ts, t.Obeys E
  goesOn : ∀ t ∈ ts.dropLast, t.GoesOn E budget
  done : o.verdict = .done () ↔
    ∃ last, ts.getLast? = some last ∧ (last.Idle ∨ last.Blocked E budget)

/-- A run of no turn has not finished. -/
theorem follows_nil (E : Engine σ) (budget : Nat) (h : Handshake σ) :
    Follows E budget h [] ⟨h, [], .unfinished⟩ :=
  ⟨rfl, rfl, nofun, nofun, nofun, nofun⟩

/-- A turn in front of a run. -/
theorem Follows.cons {E : Engine σ} {budget : Nat} {t : Turn σ} {ts : List (Turn σ)}
    {o : Outcome (Handshake σ) EngineError Unit} (hf : Follows E budget (t.left E budget) ts o)
    (hobeys : t.Obeys E) (hgoesOn : t.GoesOn E budget) (hidle : ¬t.Idle) :
    Follows E budget t.start (t :: ts) (o.after (t.events E budget)) where
  linked := ⟨rfl, hf.linked⟩
  events := by rw [Outcome.events_after, hf.events, List.flatMap_cons]
  obeys := List.forall_mem_cons.mpr ⟨hobeys, hf.obeys⟩
  goesOn := by
    cases ts with
    | nil => nofun
    | cons t' ts => exact List.forall_mem_cons.mpr ⟨hgoesOn, hf.goesOn⟩
  done := by
    rw [Outcome.verdict_after, hf.done]
    cases ts with
    | nil =>
      constructor
      · nofun
      · rintro ⟨last, hlast, hstops⟩
        cases hlast
        exact absurd hstops (not_or.mpr ⟨hidle, hgoesOn.2⟩)
    | cons t' ts => rw [List.getLast?_cons_cons]

/-- A turn that ends a run. -/
theorem follows_singleton {E : Engine σ} {budget : Nat} {t : Turn σ}
    {o : Outcome (Handshake σ) EngineError Unit} (hstate : o.state = t.left E budget)
    (hevents : o.events = t.events E budget) (hobeys : t.Obeys E)
    (hdone : o.verdict = .done () ↔ t.Idle ∨ t.Blocked E budget) :
    Follows E budget t.start [t] o where
  linked := ⟨rfl, hstate⟩
  events := hevents.trans (List.append_nil _).symm
  obeys := List.forall_mem_singleton.mpr hobeys
  goesOn := nofun
  done := by
    rw [hdone]
    constructor
    · exact fun h => ⟨t, rfl, h⟩
    · rintro ⟨last, hlast, h⟩
      cases hlast
      exact h

/-- A turn without an operation ends the run. -/
theorem follows_idle {E : Engine σ} (budget : Nat) {h : Handshake σ} {seen : HandshakeStatus}
    (hseen : E.handshakeStatus h.engine = seen) (hwrap : seen ≠ .needWrap)
    (hunwrap : seen ≠ .needUnwrap) :
    Follows E budget h [⟨h, seen, none⟩] ⟨h, [.turn seen], .done ()⟩ :=
  follows_singleton (t := ⟨h, seen, none⟩) rfl rfl
    ⟨hseen.symm, iff_of_false nofun hwrap, iff_of_false nofun hunwrap⟩
    (iff_of_true rfl (.inl ⟨hwrap, hunwrap⟩))

theorem Turn.Obeys.not_idle {E : Engine σ} {t : Turn σ} (h : t.Obeys E) {direction : Direction}
    (hdirection : t.direction = some direction) : ¬t.Idle := by
  rintro ⟨hwrap, hunwrap⟩
  cases direction with
  | wrap => exact hwrap (h.wrap.mp hdirection)
  | unwrap => exact hunwrap (h.unwrap.mp hdirection)

/-- A turn that is blocked has an operation that came back. -/
theorem Turn.Blocked.done {E : Engine σ} {budget : Nat} {t : Turn σ} (h : t.Blocked E budget)
    {direction : Direction} (hdirection : t.direction = some direction) :
    ∃ r, (operate E budget direction t.start).verdict = .done r := by
  obtain ⟨-, r, hr, -⟩ := h
  exact ⟨r, (Turn.report?_eq_some_iff hdirection r).mp hr⟩

/-- An idle turn leaves everything as it is. -/
theorem Turn.Obeys.left_of_idle {E : Engine σ} {t : Turn σ} (h : t.Obeys E) (hidle : t.Idle)
    (budget : Nat) : t.left E budget = t.start := by
  cases hdirection : t.direction with
  | none =>
    rw [Turn.left, Turn.outcome?, hdirection]
    rfl
  | some direction => exact absurd hidle (h.not_idle hdirection)

/-- The turn of an operation. If the operation comes back, then what follows it is the end of a run
that is blocked, or a run with turns of its own. -/
theorem exists_follows_operation {E : Engine σ} {budget : Nat} {t : Turn σ} {direction : Direction}
    (hdirection : t.direction = some direction) (hobeys : t.Obeys E)
    {next : Handshake σ → Report → Outcome (Handshake σ) EngineError Unit}
    (hnext : ∀ r, (operate E budget direction t.start).verdict = .done r →
      t.Blocked E budget ∧ next (t.left E budget) r = ⟨t.left E budget, [], .done ()⟩ ∨
        ¬t.Blocked E budget ∧
          ∃ ts, Follows E budget (t.left E budget) ts (next (t.left E budget) r)) :
    ∃ ts, Follows E budget t.start ts
      (((operate E budget direction t.start).andThen next).after [.turn t.seen]) := by
  have hleft : t.left E budget = (operate E budget direction t.start).state := by
    rw [Turn.left, Turn.outcome?, hdirection]
    rfl
  have hevents : t.events E budget =
      .turn t.seen :: (operate E budget direction t.start).events := by
    rw [Turn.events, Turn.outcome?, hdirection]
    rfl
  have hidle := hobeys.not_idle hdirection
  have hlast : ∀ o : Outcome (Handshake σ) EngineError Unit,
      o.state = (operate E budget direction t.start).state →
      o.events = (operate E budget direction t.start).events →
      (o.verdict = .done () ↔ t.Blocked E budget) →
        ∃ ts, Follows E budget t.start ts (o.after [.turn t.seen]) := by
    intro o hstate hsame hdone
    refine ⟨[t], follows_singleton (hstate.trans hleft.symm) ?_ hobeys ?_⟩
    · rw [Outcome.events_after, hsame, hevents]
      rfl
    · rw [Outcome.verdict_after, hdone, or_iff_right hidle]
  cases hv : (operate E budget direction t.start).verdict with
  | done r =>
    rw [Outcome.andThen_done hv, ← hleft]
    rcases hnext r hv with ⟨hblocked, hstop⟩ | ⟨hblocked, ts, hts⟩
    · rw [hstop]
      exact hlast _ hleft (List.append_nil _) (iff_of_true rfl hblocked)
    · have hreport := (Turn.report?_eq_some_iff hdirection r).mpr hv
      have hall := hts.cons hobeys ⟨⟨r, hreport⟩, hblocked⟩ hidle
      rw [hevents] at hall
      exact ⟨t :: ts, hall⟩
  | failed e =>
    rw [Outcome.andThen_failed hv]
    refine hlast _ rfl rfl (iff_of_false nofun fun hblocked => ?_)
    obtain ⟨r, hdone⟩ := hblocked.done hdirection
    cases hv.symm.trans hdone
  | unfinished =>
    rw [Outcome.andThen_unfinished hv]
    refine hlast _ rfl rfl (iff_of_false nofun fun hblocked => ?_)
    obtain ⟨r, hdone⟩ := hblocked.done hdirection
    cases hv.symm.trans hdone

/-- By induction on the turns: the engine's answer tells whether there is an operation, and the
verdict of the operation whether the run goes on. -/
theorem drive_follows (E : Engine σ) (budget turns : Nat) (h : Handshake σ) :
    ∃ ts, Follows E budget h ts (h.drive E budget turns) := by
  induction turns generalizing h with
  | zero => exact ⟨[], follows_nil E budget h⟩
  | succ turns ih =>
    rw [drive]
    cases hseen : E.handshakeStatus h.engine with
    | needWrap =>
      exact exists_follows_operation (t := ⟨h, .needWrap, some .wrap⟩) rfl
        ⟨hseen.symm, by simp, by simp⟩ fun r _ => .inr ⟨Turn.not_blocked_of_wrap rfl, ih _⟩
    | needUnwrap =>
      refine exists_follows_operation (t := ⟨h, .needUnwrap, some .unwrap⟩) rfl
        ⟨hseen.symm, by simp, by simp⟩ fun r hdone => ?_
      split
      · next hstop => exact .inl ⟨⟨rfl, r, (Turn.report?_eq_some_iff rfl r).mpr hdone, hstop⟩, rfl⟩
      · next hmore =>
        refine .inr ⟨?_, ih _⟩
        rintro ⟨-, r', hr', hstop⟩
        rw [Turn.report?_eq_some_iff rfl, hdone, Verdict.done.injEq] at hr'
        exact hmore (hr' ▸ hstop)
    | notHandshaking => exact ⟨_, follows_idle budget hseen (by decide) (by decide)⟩
    | needTask => exact ⟨_, follows_idle budget hseen (by decide) (by decide)⟩
    | finished => exact ⟨_, follows_idle budget hseen (by decide) (by decide)⟩

/-- Every run of the driver is a row of turns, each of which asks the engine and then makes a wrap
exactly when the answer says so and an unwrap exactly when it says so. Wraps add to the outbound
buffer and unwraps take from the inbound buffer just what their accepted calls gave and took, and
nothing else changes these two. A run comes back without an error exactly when in its last turn
the engine needs neither direction, or an unwrap ends with underflow or closed, as its last call has
reported. If it is not such an unwrap, the engine needs neither direction at the end. -/
theorem drive_obeys_engine (E : Engine σ) (budget turns : Nat) {h : Handshake σ}
    (hwf : h.WellFormed) :
    let o := h.drive E budget turns
    h.inbound.Reads (consumed .unwrap (calls o.events)) o.state.inbound ∧
      h.outbound.Gains (produced .wrap (calls o.events)) o.state.outbound ∧
      ∃ ts : List (Turn σ),
        Linked E budget h ts o.state ∧
        o.events = ts.flatMap (Turn.events E budget) ∧
        (∀ t ∈ ts, t.Obeys E ∧ t.Moves E budget) ∧
        (∀ t ∈ ts.dropLast, t.GoesOn E budget) ∧
        (o.verdict = .done () ↔
          ∃ last, ts.getLast? = some last ∧ (last.Idle ∨ last.Blocked E budget)) ∧
        (o.verdict = .done () → (∀ last ∈ ts.getLast?, ¬last.Blocked E budget) →
          E.handshakeStatus o.state.engine ≠ .needWrap ∧
            E.handshakeStatus o.state.engine ≠ .needUnwrap) := by
  intro o
  have hm : h.Moved (calls o.events) o.state := drive_moved E budget turns hwf
  obtain ⟨ts, hf⟩ := drive_follows E budget turns h
  refine ⟨hm.inbound, hm.outbound, ts, hf.linked, hf.events, ?_, hf.goesOn, hf.done, ?_⟩
  · exact fun t ht => ⟨hf.obeys t ht, Turn.moves E budget (hf.linked.wellFormed hwf t ht)⟩
  · intro hdone hblocked
    obtain ⟨last, hlast, hidle | hlastBlocked⟩ := hf.done.mp hdone
    · have hobeys := hf.obeys last (List.mem_of_getLast? hlast)
      have hleft := hf.linked.left_eq hlast
      rw [hobeys.left_of_idle hidle] at hleft
      rw [← hleft, ← hobeys.asked]
      exact hidle
    · exact absurd hlastBlocked (hblocked last hlast)

/-- The status changes in the middle of a wrap, which overflows, and through a task. The peer closes
in the third turn, while the engine still wants input. -/
theorem drive_obeys_engine_closed :
    let script : Scripted :=
      { stepping := true
        statuses := [.needWrap, .finished, .needUnwrap, .needTask, .needUnwrap, .needUnwrap]
        tasks := [none]
        unwraps := [.give .ok (some 3) (.bytes []), .give .closed (some 1) (.bytes [])]
        wraps := [.give .overflow (some 0) (.bytes [7]), .give .ok (some 0) (.bytes [8, 9])] }
    let h : Handshake Scripted :=
      ⟨script, .ofBytes [1, 2, 3, 4, 5], .withCapacity 2, .withCapacity 1⟩
    let o := h.drive Scripted.engine 9 9
    h.WellFormed ∧
      o.state.inbound.region = [5] ∧
      o.state.outbound.held = [7, 8, 9] ∧
      Scripted.engine.handshakeStatus o.state.engine = .needUnwrap ∧
      ∃ ts : List (Turn Scripted),
        o.events = ts.flatMap (Turn.events Scripted.engine 9) ∧
        (∀ t ∈ ts, t.Obeys Scripted.engine) ∧
        ∃ last ∈ ts.getLast?, last.Blocked Scripted.engine 9 := by
  intro script h o
  have hwf : h.WellFormed :=
    ⟨Buffer.wellFormed_ofBytes _, Buffer.wellFormed_withCapacity _,
      Buffer.wellFormed_withCapacity _⟩
  obtain ⟨hinbound, houtbound, ts, -, hevents, hturns, -, -, hrest⟩ :=
    drive_obeys_engine Scripted.engine 9 9 hwf
  have hseen : Scripted.engine.handshakeStatus o.state.engine = .needUnwrap := by decide
  refine ⟨hwf, ?_, ?_, hseen, ts, hevents, fun t ht => (hturns t ht).1, ?_⟩
  · rw [hinbound.region_eq_drop]
    decide
  · exact houtbound.held.trans (by decide)
  · apply Classical.byContradiction
    intro hnone
    have hunblocked : ∀ last ∈ ts.getLast?, ¬last.Blocked Scripted.engine 9 :=
      fun last hlast hblocked => hnone ⟨last, hlast, hblocked⟩
    exact (hrest (by decide) hunblocked).2 hseen

end Handshake

end RecordLayer
