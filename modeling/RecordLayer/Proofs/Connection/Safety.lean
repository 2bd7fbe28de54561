import RecordLayer.Engine.Scripted
import RecordLayer.Proofs.Checked.Connection

/-!
# Engines that lie

The runner compares the counts of every report with the regions before it moves a cursor. So an
engine may report what it likes: no index is ever out of range, and the call that reported too much
is the last of its operation and moves nothing.

* `Call.Overreports`: the counts are beyond the regions that the call was given;
* `Outcome.RestsAt`: a call that fails leaves the buffers at the place where it found them;
* `Step.Caught`: the operation has failed with misconduct that nobody but the runner reports, and
  `Step.caught_iff` says that this happens exactly when a call overreports;
* `operations_safe` puts it together for every command after every history.
-/

namespace RecordLayer

/-- More was reported than the regions hold. -/
def Call.Overreports (c : Call) : Prop :=
  ∃ r, c.report = .ok r ∧ (c.source.length < r.consumed ∨ c.room < r.produced)

instance (c : Call) : Decidable c.Overreports :=
  match h : c.report with
  | .ok r =>
    if hover : c.source.length < r.consumed ∨ c.room < r.produced then .isTrue ⟨r, h, hover⟩
    else .isFalse fun ⟨_, hreport, hover'⟩ => hover (by cases h.symm.trans hreport; exact hover')
  | .error _ => .isFalse fun ⟨_, hreport, _⟩ => by cases h.symm.trans hreport

theorem Call.failure?_of_overreports {c : Call} (hc : c.reading.WellFormed) {r : Report}
    (hreport : c.report = .ok r) (hover : c.source.length < r.consumed ∨ c.room < r.produced) :
    c.failure? = some (.misbehaved
      (.overreported c.direction r.consumed r.produced c.source.length c.room)) := by
  have hlen : c.source.length = c.reading.remaining := Buffer.length_region hc
  have hcounts : ¬(r.consumed ≤ c.reading.remaining ∧ r.produced ≤ c.room) := by
    rw [← hlen]
    omega
  simp only [failure?, hreport, if_neg hcounts, hlen]

theorem Call.overreports_of_failure? {c : Call} (hc : c.reading.WellFormed) {e : EngineError}
    {r : Report} (hreport : c.report = .ok r) (h : c.failure? = some e) : c.Overreports := by
  have hlen : c.source.length = c.reading.remaining := Buffer.length_region hc
  simp only [failure?, hreport] at h
  split at h
  · cases h
  · next hcounts =>
    rw [← hlen] at hcounts
    exact ⟨r, hreport, by omega⟩

theorem Call.reports_of_failure? {c : Call} (h : c.failure? = none) : ∃ r, c.report = .ok r := by
  rw [failure?] at h
  split at h
  · cases h
  · next r hreport => exact ⟨r, hreport⟩

/-! ### Where a call that fails leaves the buffers -/

namespace Outcome

variable {σ τ ε α β : Type}

/-- Every call that fails is followed by nothing that moves the buffers away from `place`. -/
def RestsAt (place : σ → Call → Prop) (o : Outcome σ EngineError α) : Prop :=
  ∀ call ∈ calls o.events, call.failure? ≠ none → place o.state call

variable {place : σ → Call → Prop} {o : Outcome σ EngineError α}

theorem restsAt_of_calls (h : calls o.events = []) : o.RestsAt place := by
  intro call hcall
  rw [h] at hcall
  cases hcall

theorem RestsAt.after (h : o.RestsAt place) {events : List Event} (hevents : calls events = []) :
    (o.after events).RestsAt place := by
  intro call hcall
  rw [events_after, calls_append, hevents, List.nil_append] at hcall
  exact h call hcall

theorem RestsAt.andThen {next : σ → α → Outcome σ EngineError β} (h : o.RestsAt place)
    (hstop : o.StopsAtFailure) (hnext : ∀ a, o.verdict = .done a → (next o.state a).RestsAt place) :
    (o.andThen next).RestsAt place := by
  cases hv : o.verdict with
  | done a =>
    rw [andThen_done hv]
    intro call hcall hfailure
    rw [events_after, calls_append, List.mem_append] at hcall
    rcases hcall with hcall | hcall
    · exact absurd ((hstop.smooth hv).failure?_call hcall) hfailure
    · exact hnext a hv call hcall hfailure
  | failed e =>
    rw [andThen_failed hv]
    exact h
  | unfinished =>
    rw [andThen_unfinished hv]
    exact h

/-- If a call fails, then so does the operation. -/
theorem StopsAtFailure.failed_of_mem (h : o.StopsAtFailure) {call : Call}
    (hcall : call ∈ calls o.events) (hfailure : call.failure? ≠ none) :
    ∃ e, o.verdict = .failed e := by
  rw [StopsAtFailure] at h
  split at h
  · next e hv => exact ⟨e, hv⟩
  · exact absurd (h.failure?_call hcall) hfailure
  · exact absurd (h.failure?_call hcall) hfailure

end Outcome

namespace Transfer

variable {σ : Type}

/-- The buffers are those of a call in the direction. -/
def At (direction : Direction) (t : Transfer σ) (call : Call) : Prop :=
  call.direction = direction ∧ t.source = call.reading ∧ t.destination = call.writing

theorem attempt_restsAt (E : Engine σ) (direction : Direction) (t : Transfer σ) :
    (attempt E direction t).RestsAt (At direction) := by
  intro call hcall hfailure
  rw [events_attempt, calls_cons, calls_nil, List.append_nil, List.mem_singleton] at hcall
  subst hcall
  have hstop := attempt_stopsAtFailure E direction t
  rcases attempt_cases E direction t with ⟨_, _, _, -, -, -, hdone⟩ | ⟨_, -, hfailed⟩
  · have hsmooth : Smooth (attempt E direction t).events := hstop.smooth (by rw [hdone])
    rw [events_attempt] at hsmooth
    exact absurd (hsmooth _ List.mem_cons_self) hfailure
  · rw [hfailed]
    exact ⟨rfl, rfl, rfl⟩

theorem exchange_restsAt (E : Engine σ) (direction : Direction) (budget : Nat) (t : Transfer σ) :
    (exchange E direction budget t).RestsAt (At direction) := by
  induction budget generalizing t with
  | zero => exact Outcome.restsAt_of_calls rfl
  | succ budget ih =>
    rw [exchange]
    refine (attempt_restsAt E direction t).andThen (attempt_stopsAtFailure E direction t)
      fun r _ => ?_
    split
    · exact (ih _).after rfl
    · exact Outcome.restsAt_of_calls rfl

theorem run_restsAt (E : Engine σ) (direction : Direction) (budget : Nat) (t : Transfer σ) :
    (run E direction budget t).RestsAt (At direction) := by
  rw [run]
  exact (exchange_restsAt E direction budget t).andThen (exchange_stopsAtFailure E direction budget t)
    fun r _ => Outcome.restsAt_of_calls (calls_finish E budget _ r)

end Transfer

namespace Handshake

variable {σ : Type}

/-- The buffers are those of a call: a wrap goes from scratch to outbound, an unwrap from inbound to
scratch. -/
def At (h : Handshake σ) (call : Call) : Prop :=
  match call.direction with
  | .wrap => h.scratch = call.reading ∧ h.outbound = call.writing
  | .unwrap => h.inbound = call.reading ∧ h.scratch = call.writing

theorem wrap_restsAt (E : Engine σ) (budget : Nat) (h : Handshake σ) :
    (h.wrap E budget).RestsAt At := by
  intro call hcall hfailure
  obtain ⟨hdirection, hplace⟩ := Transfer.run_restsAt E .wrap budget _ call hcall hfailure
  rw [At, hdirection]
  exact hplace

theorem unwrap_restsAt (E : Engine σ) (budget : Nat) (h : Handshake σ) :
    (h.unwrap E budget).RestsAt At := by
  intro call hcall hfailure
  obtain ⟨hdirection, hplace⟩ := Transfer.run_restsAt E .unwrap budget _ call hcall hfailure
  rw [At, hdirection]
  exact hplace

theorem drive_restsAt (E : Engine σ) (budget turns : Nat) (h : Handshake σ) :
    (h.drive E budget turns).RestsAt At := by
  induction turns generalizing h with
  | zero => exact Outcome.restsAt_of_calls rfl
  | succ turns ih =>
    rw [drive]
    refine Outcome.RestsAt.after ?_ rfl
    split
    · exact (wrap_restsAt E budget h).andThen (wrap_stopsAtFailure E budget h) fun _ _ => ih _
    · refine (unwrap_restsAt E budget h).andThen (unwrap_stopsAtFailure E budget h) fun r _ => ?_
      split
      · exact Outcome.restsAt_of_calls rfl
      · exact ih _
    · exact Outcome.restsAt_of_calls rfl
    · exact Outcome.restsAt_of_calls rfl
    · exact Outcome.restsAt_of_calls rfl

end Handshake

namespace Connection

variable {σ α τ : Type}

theorem receive_restsAt (E : Engine σ) (budget : Nat) (h : Handshake σ) :
    (receive E budget h).RestsAt Handshake.At :=
  (Handshake.unwrap_restsAt E budget h).andThen (Handshake.unwrap_stopsAtFailure E budget h)
    fun _ _ => Handshake.drive_restsAt E budget budget _

/-- A command has left every cursor where the call found it. A read drops its scratch buffer after a
failure, so what is said of that buffer is about the end of the driver. -/
def At (E : Engine σ) (budget : Nat) (c : Connection σ) (call : Call) : Command → Prop
  | .read =>
    let left := (receive E budget (opening E c)).state
    let kept := (c.read E budget).state
    left.At call ∧ kept.inbound = turned c left.inbound.position ∧ kept.outbound = left.outbound
  | .extract =>
    let kept := (c.extract E budget).state
    call.direction = .wrap ∧ kept.mailbox = call.reading ∧ kept.outbound = call.writing
  | .inject _ | .write _ | .peerCertificate | .handshakeStatus | .shutdown | .isInitializing
  | .describe => False

theorem inbound_closing_failed {c : Connection σ} {o : Outcome (Handshake σ) EngineError Unit}
    {e : EngineError} (h : o.verdict = .failed e) :
    (closing c o).state.inbound = turned c o.state.inbound.position := by
  rw [closing, h]

theorem outbound_closingWrap_failed {c : Connection σ}
    {o : Outcome (Transfer σ) EngineError Report} {e : EngineError} (h : o.verdict = .failed e) :
    (closingWrap c o).state.outbound = o.state.destination := by
  rw [closingWrap, h]

theorem read_at (E : Engine σ) (budget : Nat) (c : Connection σ) {call : Call}
    (hcall : call ∈ calls (c.read E budget).events) (hfailure : call.failure? ≠ none) :
    At E budget c call .read := by
  obtain ⟨hpos, hreceived⟩ := mem_calls_read hcall
  obtain ⟨e, hfailed⟩ :=
    (receive_stopsAtFailure E budget (opening E c)).failed_of_mem hreceived hfailure
  rw [At, read_full E budget hpos]
  exact ⟨receive_restsAt E budget _ call hreceived hfailure, inbound_closing_failed hfailed,
    outbound_closing c _⟩

theorem extract_at (E : Engine σ) (budget : Nat) (c : Connection σ) {call : Call}
    (hcall : call ∈ calls (c.extract E budget).events) (hfailure : call.failure? ≠ none) :
    At E budget c call .extract := by
  obtain ⟨hzero, hmailbox, hwrapped⟩ := mem_calls_extract hcall
  obtain ⟨e, hfailed⟩ :=
    (Transfer.run_stopsAtFailure E .wrap budget _).failed_of_mem hwrapped hfailure
  obtain ⟨hdirection, hsource, hdestination⟩ :=
    Transfer.run_restsAt E .wrap budget _ call hwrapped hfailure
  rw [At, extract_wrap E budget hzero hmailbox]
  refine ⟨hdirection, ?_, ?_⟩
  · rw [mailbox_closingWrap]
    exact hsource
  · rw [outbound_closingWrap_failed hfailed]
    exact hdestination

/-- Whatever the command is, it leaves the cursors where a call that fails has found them. -/
theorem step_at (E : Engine σ) (budget : Nat) (c : Connection σ) {command : Command} {call : Call}
    (hcall : call ∈ calls (c.step E budget command).events) (hfailure : call.failure? ≠ none) :
    At E budget c call command := by
  obtain rfl | hread := eq_or_ne command .read
  · exact read_at E budget c hcall hfailure
  obtain rfl | hextract := eq_or_ne command .extract
  · exact extract_at E budget c hcall hfailure
  rw [calls_step_idle E budget c hread hextract] at hcall
  cases hcall

/-! ### What the runner finds -/

/-- The error of the engine or the runner that a command came back with. -/
def Step.failure? (s : Step σ) : Option EngineError :=
  match s.reply with
  | .failed (.unexpectedEof e) | .failed (.connectionFailed e) => some e
  | _ => none

/-- The failure is that of the last event, and nothing went wrong before it. -/
def Step.StopsAtFailure (s : Step σ) : Prop :=
  match s.failure? with
  | some e => ∃ earlier last, s.events = earlier ++ [last] ∧ last.failure? = some e ∧ Smooth earlier
  | none => Smooth s.events

/-- The command has failed with misconduct although every engine call and every task has
succeeded. -/
def Step.Caught (s : Step σ) : Prop :=
  (∃ misconduct, s.failure? = some (.misbehaved misconduct)) ∧
    (∀ call ∈ calls s.events, ∃ r, call.report = .ok r) ∧ ∀ e, Event.ran (some e) ∉ s.events

variable {s : Step σ}

theorem Step.stopsAtFailure_of {o : Outcome τ EngineError α} (h : o.StopsAtFailure)
    (hevents : s.events = o.events)
    (hfailure : s.failure? = match o.verdict with | .failed e => some e | _ => none) :
    s.StopsAtFailure := by
  rw [Outcome.StopsAtFailure] at h
  rw [StopsAtFailure, hfailure, hevents]
  cases hv : o.verdict <;> rw [hv] at h <;> exact h

theorem Step.stopsAtFailure_of_smooth (h : Smooth s.events) (hfailure : s.failure? = none) :
    s.StopsAtFailure := by
  rw [StopsAtFailure, hfailure]
  exact h

theorem read_stopsAtFailure (E : Engine σ) (budget : Nat) (c : Connection σ) :
    (c.step E budget .read).StopsAtFailure := by
  rcases Nat.eq_zero_or_pos c.inbound.position with hzero | hpos
  · rw [step, read_empty E budget hzero]
    exact Step.stopsAtFailure_of_smooth smooth_nil rfl
  · rw [step, read_full E budget hpos]
    refine Step.stopsAtFailure_of (receive_stopsAtFailure E budget (opening E c))
      (events_closing c _) ?_
    rw [closing]
    cases (receive E budget (opening E c)).verdict <;> rfl

theorem extract_stopsAtFailure (E : Engine σ) (budget : Nat) (c : Connection σ) :
    (c.step E budget .extract).StopsAtFailure := by
  rcases Nat.eq_zero_or_pos c.outbound.position with hzero | hpos
  · cases hmailbox : c.mailbox.hasRemaining with
    | false =>
      rw [step, extract_idle E budget hzero hmailbox]
      exact Step.stopsAtFailure_of_smooth smooth_nil rfl
    | true =>
      rw [step, extract_wrap E budget hzero hmailbox]
      refine Step.stopsAtFailure_of (Transfer.run_stopsAtFailure E .wrap budget
        ⟨c.engine, c.mailbox, c.outbound.flip.clear.clear⟩) (events_closingWrap c _) ?_
      rw [closingWrap]
      cases (Transfer.run E .wrap budget _).verdict <;> rfl
  · rw [step, extract_pending E budget hpos]
    exact Step.stopsAtFailure_of_smooth smooth_nil rfl

theorem step_stopsAtFailure (E : Engine σ) (budget : Nat) (c : Connection σ) (command : Command) :
    (c.step E budget command).StopsAtFailure := by
  cases command with
  | read => exact read_stopsAtFailure E budget c
  | extract => exact extract_stopsAtFailure E budget c
  | write bs =>
    refine Step.stopsAtFailure_of_smooth ?_ rfl
    show Smooth (if c.mailbox.hasRemaining then [.discarded c.mailbox.remaining] else [])
    split
    · exact smooth_cons rfl smooth_nil
    · exact smooth_nil
  | inject bs => exact Step.stopsAtFailure_of_smooth smooth_nil rfl
  | peerCertificate => exact Step.stopsAtFailure_of_smooth smooth_nil rfl
  | handshakeStatus => exact Step.stopsAtFailure_of_smooth smooth_nil rfl
  | shutdown => exact Step.stopsAtFailure_of_smooth smooth_nil rfl
  | isInitializing => exact Step.stopsAtFailure_of_smooth smooth_nil rfl
  | describe => exact Step.stopsAtFailure_of_smooth smooth_nil rfl

/-- Whatever goes wrong is the last event, and the command fails with it. -/
theorem Step.StopsAtFailure.of_failure? (h : s.StopsAtFailure) {event : Event}
    (hmem : event ∈ s.events) {e : EngineError} (hfailure : event.failure? = some e) :
    (∃ earlier, s.events = earlier ++ [event] ∧ Smooth earlier) ∧ s.failure? = some e := by
  rw [StopsAtFailure] at h
  split at h
  · next e' he =>
    obtain ⟨earlier, last, hevents, hlast, hsmooth⟩ := h
    -- nothing before the last event has failed, so this one is the last
    rw [hevents, List.mem_append, List.mem_singleton] at hmem
    rcases hmem with hmem | rfl
    · rw [hsmooth event hmem] at hfailure
      cases hfailure
    · exact ⟨⟨earlier, hevents, hsmooth⟩, by rw [he, ← hlast, hfailure]⟩
  · rw [h event hmem] at hfailure
    cases hfailure

/-- A call that overreports is the last event, and the command fails with what it reported. -/
theorem Step.StopsAtFailure.of_overreports (h : s.StopsAtFailure) {call : Call}
    (hcall : call ∈ calls s.events) (hwf : call.reading.WellFormed) {r : Report}
    (hreport : call.report = .ok r)
    (hover : call.source.length < r.consumed ∨ call.room < r.produced) :
    (∃ earlier, s.events = earlier ++ [.call call] ∧ Smooth earlier) ∧
      s.failure? = some (.misbehaved
        (.overreported call.direction r.consumed r.produced call.source.length call.room)) :=
  h.of_failure? (mem_calls.mp hcall) (Call.failure?_of_overreports hwf hreport hover)

/-- The runner finds misconduct exactly when a call overreports. -/
theorem Step.caught_iff (h : s.StopsAtFailure)
    (hwf : ∀ call ∈ calls s.events, call.reading.WellFormed) :
    s.Caught ↔ ∃ call ∈ calls s.events, call.Overreports := by
  constructor
  · rintro ⟨⟨misconduct, hfailure⟩, hreports, hran⟩
    rw [StopsAtFailure, hfailure] at h
    obtain ⟨earlier, last, hevents, hlast, -⟩ := h
    have hmem : last ∈ s.events := by
      rw [hevents]
      exact List.mem_append_right _ List.mem_cons_self
    -- only calls and tasks fail, and no task has failed
    cases last with
    | call call =>
      have hcall := mem_calls.mpr hmem
      obtain ⟨r, hreport⟩ := hreports call hcall
      exact ⟨call, hcall, Call.overreports_of_failure? (hwf call hcall) hreport hlast⟩
    | ran failure =>
      have hfailed : failure = some (.misbehaved misconduct) := hlast
      exact absurd (hfailed ▸ hmem) (hran _)
    | grown _ _ _ => cases hlast
    | status _ => cases hlast
    | fetched _ => cases hlast
    | tasksDone _ => cases hlast
    | turn _ => cases hlast
    | discarded _ => cases hlast
  · rintro ⟨call, hcall, r, hreport, hover⟩
    obtain ⟨⟨earlier, hevents, hsmooth⟩, hfailure⟩ :=
      h.of_overreports hcall (hwf call hcall) hreport hover
    refine ⟨⟨_, hfailure⟩, ?_, ?_⟩
    · intro other hother
      rw [hevents, calls_append, List.mem_append] at hother
      rcases hother with hother | hother
      · exact Call.reports_of_failure? (hsmooth.failure?_call hother)
      · rw [List.mem_singleton.mp hother]
        exact ⟨r, hreport⟩
    · intro e he
      rw [hevents, List.mem_append, List.mem_singleton] at he
      rcases he with he | he
      · cases hsmooth _ he
      · cases he

/-! ### Every command after every history -/

/-- All buffers that the calls of a command are given have their cursors in order. -/
theorem wellFormed_calls (E : Engine σ) (budget : Nat) {c : Connection σ} (h : c.WellFormed)
    (command : Command) : ∀ call ∈ calls (c.step E budget command).events,
      call.reading.WellFormed ∧ call.writing.WellFormed := by
  intro call hcall
  obtain rfl | hread := eq_or_ne command .read
  · exact (receive_moved E budget (wellFormed_opening E h)).wellFormed call (mem_calls_read hcall).2
  obtain rfl | hextract := eq_or_ne command .extract
  · exact (Transfer.run_moved E .wrap budget h.mailbox (Buffer.wellFormed_clear _)).wellFormed call
      (mem_calls_extract hcall).2.2
  rw [calls_step_idle E budget c hread hextract] at hcall
  cases hcall

/-- No report of an engine does any harm, whatever the history and however its operations ended.

All cursors are in order before and after every command: those of the buffers that are kept, of
those that calls are given, and of the scratch buffer of a read. The runner finds misconduct exactly
when a call overreports. Such a call is the last thing that happens, the error tells its counts and
its regions, and no cursor moves for it.

If the sizes fit in words, then the checked run of the whole history comes to the same connections
and replies: no index is out of range, no difference is negative, no sum is too large and no
position is moved beyond its limit. -/
theorem operations_safe (E : Engine σ) (budget : Nat) (s : σ) (commands : List Command) :
    let c := after E budget (new E s) commands
    (E.packetSize s < wordLimit → E.applicationSize s < wordLimit →
      Fits E budget (new E s) commands →
        ((Checked.new E s).bind fun c => Checked.history E budget c commands) =
          some ((history E budget (new E s) commands).map fun step =>
            (step.connection, step.reply))) ∧
    c.WellFormed ∧
    (receive E budget (opening E c)).state.WellFormed ∧
    ∀ command,
      let next := c.step E budget command
      (∀ call ∈ calls next.events, call.reading.WellFormed ∧ call.writing.WellFormed) ∧
      (next.Caught ↔ ∃ call ∈ calls next.events, call.Overreports) ∧
      ∀ call ∈ calls next.events, ∀ r, call.report = .ok r →
        (call.source.length < r.consumed ∨ call.room < r.produced) →
          (∃ earlier, next.events = earlier ++ [.call call]) ∧
          next.failure? = some (.misbehaved
            (.overreported call.direction r.consumed r.produced call.source.length call.room)) ∧
          At E budget c call command := by
  intro c
  have hwf : c.WellFormed := wellFormed_after E budget (wellFormed_new E s) commands
  have hopening := wellFormed_opening E hwf
  refine ⟨?_, hwf, (receive_moved E budget hopening).after hopening, ?_⟩
  · intro hpacket hpayload hfits
    obtain ⟨hnew, hsound⟩ := Checked.new_checks E hpacket hpayload
    rw [hnew, Option.bind_some]
    exact Checked.history_checks E budget hsound hfits
  · intro command next
    have hstop := step_stopsAtFailure E budget c command
    have hcalls := wellFormed_calls E budget hwf command
    refine ⟨hcalls, Step.caught_iff hstop fun call hcall => (hcalls call hcall).1, ?_⟩
    intro call hcall r hreport hover
    have hreading := (hcalls call hcall).1
    obtain ⟨⟨earlier, hevents, -⟩, hfailure⟩ := hstop.of_overreports hcall hreading hreport hover
    refine ⟨⟨earlier, hevents⟩, hfailure, step_at E budget c hcall ?_⟩
    rw [Call.failure?_of_overreports hreading hreport hover]
    exact Option.some_ne_none _

/-- A wrap of the driver and the wrap of an extraction report the largest counts that there are. In
between the inbound buffer, which the failed read has left turned around, is injected into. -/
theorem operations_safe_boasting :
    let script : Scripted :=
      { packet := 4, application := 4, stepping := true, statuses := [.needUnwrap, .needWrap]
        unwraps := [.give .ok (some 1) (.repeated 2)]
        wraps := [.boast .ok (some (wordLimit - 1)) (.repeated (wordLimit - 1)),
          .boast .ok (some 1) (.repeated (wordLimit - 1))] }
    let commands : List Command := [.inject [1, 2], .read, .inject [3, 4, 5, 6, 7], .write [8, 9]]
    let start := new Scripted.engine script
    let c := after Scripted.engine 9 start commands
    let next := c.step Scripted.engine 9 .extract
    Fits Scripted.engine 9 start commands ∧
      ((Checked.new Scripted.engine script).bind fun c =>
          Checked.history Scripted.engine 9 c commands) =
        some ((history Scripted.engine 9 start commands).map fun step =>
          (step.connection, step.reply)) ∧
      next.Caught ∧
      ∃ call ∈ calls next.events, call.Overreports ∧ At Scripted.engine 9 c call .extract := by
  intro script commands start c next
  have hfits : Fits Scripted.engine 9 start commands := by decide
  have hover : ∃ call ∈ calls next.events, call.Overreports := by decide
  obtain ⟨hchecked, -, -, hnext⟩ := operations_safe Scripted.engine 9 script commands
  obtain ⟨-, hcaught, hstopped⟩ := hnext .extract
  refine ⟨hfits, hchecked (by decide) (by decide) hfits, hcaught.mpr hover, ?_⟩
  obtain ⟨call, hcall, r, hreport, hcounts⟩ := hover
  obtain ⟨-, -, hat⟩ := hstopped call hcall r hreport hcounts
  exact ⟨call, hcall, ⟨r, hreport, hcounts⟩, hat⟩

end Connection

end RecordLayer
