import RecordLayer.Proofs.Connection.Safety

/-!
# The errors of a connection

A read or an extraction fails for three reasons: an engine call fails, an engine call reports counts
beyond its regions, or a delegated task fails. The first of them ends the operation, whichever loop
it comes up in, and is the source of the error.

* `Event.Fails` is what goes wrong at one event, together with the engine error that tells it;
* `Command.errorOf?` is the error that an operation makes of an engine error;
* `reply_eq_failed_iff`: an operation that fails makes its error of what its trace stopped at;
* `errors_exact` says for every command after every history when it fails, and with what.
-/

namespace RecordLayer

/-- What goes wrong at an event, and the engine error that tells it. -/
inductive Event.Fails : Event → EngineError → Prop
  | refused {c : Call} {e : EngineError} (h : c.report = .error e) : Fails (.call c) e
  | overreported {c : Call} {r : Report} (h : c.report = .ok r)
      (hover : c.source.length < r.consumed ∨ c.room < r.produced) :
      Fails (.call c) (.misbehaved
        (.overreported c.direction r.consumed r.produced c.source.length c.room))
  | task (e : EngineError) : Fails (.ran (some e)) e

theorem Call.fails_iff {c : Call} (hc : c.reading.WellFormed) (e : EngineError) :
    (Event.call c).Fails e ↔ c.failure? = some e := by
  constructor
  · intro h
    cases h with
    | refused hreport => simp only [failure?, hreport]
    | overreported hreport hover => exact failure?_of_overreports hc hreport hover
  · intro h
    cases hreport : c.report with
    | error e' =>
      simp only [failure?, hreport, Option.some.injEq] at h
      exact h ▸ .refused hreport
    | ok r =>
      obtain ⟨r', hreport', hover⟩ := overreports_of_failure? hc hreport h
      have hfailure := failure?_of_overreports hc hreport' hover
      rw [h, Option.some.injEq] at hfailure
      exact hfailure ▸ .overreported hreport' hover

theorem Event.fails_iff {event : Event} (hwf : ∀ c, event = .call c → c.reading.WellFormed)
    (e : EngineError) : event.Fails e ↔ event.failure? = some e := by
  cases event with
  | call c => exact c.fails_iff (hwf c rfl) e
  | ran failure =>
    constructor
    · rintro ⟨⟩
      rfl
    · intro h
      have hfailure : failure = some e := h
      exact hfailure ▸ .task e
  | _ => exact ⟨nofun, nofun⟩

namespace Connection

variable {σ : Type}

/-- The error that an operation makes of an engine error. Only reads and extractions make one. -/
def Command.errorOf? : Command → EngineError → Option Error
  | .read, e => some (.unexpectedEof e)
  | .extract, e => some (.connectionFailed e)
  | .inject _, _ | .write _, _ | .peerCertificate, _ | .handshakeStatus, _ | .shutdown, _
  | .isInitializing, _ | .describe, _ => none

theorem verdict_closing_failed_iff {c : Connection σ} {o : Outcome (Handshake σ) EngineError Unit}
    {error : Error} :
    (closing c o).verdict = .failed error ↔
      ∃ e, o.verdict = .failed e ∧ error = .unexpectedEof e := by
  rw [closing]
  cases o.verdict <;> simp [eq_comm]

theorem verdict_closingWrap_failed_iff {c : Connection σ}
    {o : Outcome (Transfer σ) EngineError Report} {error : Error} :
    (closingWrap c o).verdict = .failed error ↔
      ∃ e, o.verdict = .failed e ∧ error = .connectionFailed e := by
  rw [closingWrap]
  cases o.verdict <;> simp [eq_comm]

theorem unexpectedEof_of_read {E : Engine σ} {budget : Nat} {c : Connection σ} {error : Error}
    (h : (c.read E budget).verdict = .failed error) : ∃ e, error = .unexpectedEof e := by
  rcases Nat.eq_zero_or_pos c.inbound.position with hzero | hpos
  · rw [read_empty E budget hzero] at h
    cases h
  · rw [read_full E budget hpos, verdict_closing_failed_iff] at h
    obtain ⟨e, -, he⟩ := h
    exact ⟨e, he⟩

theorem connectionFailed_of_extract {E : Engine σ} {budget : Nat} {c : Connection σ}
    {error : Error} (h : (c.extract E budget).verdict = .failed error) :
    ∃ e, error = .connectionFailed e := by
  rcases Nat.eq_zero_or_pos c.outbound.position with hzero | hpos
  · cases hmailbox : c.mailbox.hasRemaining with
    | false =>
      rw [extract_idle E budget hzero hmailbox] at h
      cases h
    | true =>
      rw [extract_wrap E budget hzero hmailbox, verdict_closingWrap_failed_iff] at h
      obtain ⟨e, -, he⟩ := h
      exact ⟨e, he⟩
  · rw [extract_pending E budget hpos] at h
    cases h

theorem Step.failure?_eq_some_iff {s : Step σ} {e : EngineError} :
    s.failure? = some e ↔
      s.reply = .failed (.unexpectedEof e) ∨ s.reply = .failed (.connectionFailed e) := by
  rw [failure?]
  split
  · next e' h => simp [h]
  · next e' h => simp [h]
  · next hEof hFailed =>
    constructor
    · nofun
    · rintro (h | h)
      · exact (hEof e h).elim
      · exact (hFailed e h).elim

/-- The error tells what the operation stopped at, and which operation it was. -/
theorem reply_eq_failed_iff (E : Engine σ) (budget : Nat) (c : Connection σ) (command : Command)
    (error : Error) :
    (c.step E budget command).reply = .failed error ↔
      ∃ source, (c.step E budget command).failure? = some source ∧
        command.errorOf? source = some error := by
  simp only [Step.failure?_eq_some_iff]
  cases command with
  | read =>
    constructor
    · intro h
      obtain ⟨e, rfl⟩ := unexpectedEof_of_read (failed_of_reply h)
      exact ⟨e, .inl h, rfl⟩
    · rintro ⟨source, h | h, herror⟩
      · rw [h, Option.some.inj herror]
      · obtain ⟨e, he⟩ := unexpectedEof_of_read (failed_of_reply h)
        cases he
  | extract =>
    constructor
    · intro h
      obtain ⟨e, rfl⟩ := connectionFailed_of_extract (failed_of_reply h)
      exact ⟨e, .inr h, rfl⟩
    · rintro ⟨source, h | h, herror⟩
      · obtain ⟨e, he⟩ := connectionFailed_of_extract (failed_of_reply h)
        cases he
      · rw [h, Option.some.inj herror]
  | _ => exact ⟨nofun, fun ⟨_, _, herror⟩ => nomatch herror⟩

/-- A trace breaks off with an engine error: its last event fails with it, and none before it
fails. -/
def BreaksOff (events : List Event) (source : EngineError) : Prop :=
  ∃ earlier last, events = earlier ++ [last] ∧ last.Fails source ∧
    ∀ event ∈ earlier, ∀ e, ¬event.Fails e

theorem breaksOff_iff {s : Step σ} (h : s.StopsAtFailure)
    (hwf : ∀ call ∈ calls s.events, call.reading.WellFormed) (source : EngineError) :
    BreaksOff s.events source ↔ s.failure? = some source := by
  have hfails : ∀ event ∈ s.events, ∀ e, event.Fails e ↔ event.failure? = some e := by
    intro event hmem e
    exact Event.fails_iff (fun c hc => hwf c (mem_calls.mpr (hc ▸ hmem))) e
  constructor
  · rintro ⟨earlier, last, hevents, hlast, -⟩
    have hmem : last ∈ s.events := hevents ▸ List.mem_append_right _ List.mem_cons_self
    exact (h.of_failure? hmem ((hfails last hmem source).mp hlast)).2
  · intro hsource
    rw [Step.StopsAtFailure, hsource] at h
    obtain ⟨earlier, last, hevents, hlast, hsmooth⟩ := h
    have hmem : last ∈ s.events := hevents ▸ List.mem_append_right _ List.mem_cons_self
    refine ⟨earlier, last, hevents, (hfails last hmem source).mpr hlast, ?_⟩
    intro event hevent e he
    rw [hfails event (hevents ▸ List.mem_append_left _ hevent), hsmooth event hevent] at he
    cases he

/-- A command fails exactly when an engine call fails or overreports or a task fails while it is
performed. The error has the first such failure for its source, and after that failure the
operation neither calls the engine nor asks for a task. Reads fail as the unexpected end of the
stream and extractions as failed connections, and no other command fails. The status of a report has
no part in it: if every call is accepted and every task succeeds, nothing fails. -/
theorem errors_exact (E : Engine σ) (budget : Nat) (s : σ) (commands : List Command)
    (command : Command) :
    let done := (after E budget (new E s) commands).step E budget command
    (∀ error, done.reply = .failed error ↔
      ∃ source, BreaksOff done.events source ∧ command.errorOf? source = some error) ∧
    ((∃ error, done.reply = .failed error) ↔ ∃ event ∈ done.events, ∃ e, event.Fails e) ∧
    (command ≠ .read → command ≠ .extract → ∀ error, done.reply ≠ .failed error) ∧
    ((∀ call ∈ calls done.events, ∃ r, call.accepted? = some r) →
      (∀ e, Event.ran (some e) ∉ done.events) → ∀ error, done.reply ≠ .failed error) := by
  intro done
  have hwf := wellFormed_after E budget (wellFormed_new E s) commands
  have hstop : done.StopsAtFailure := step_stopsAtFailure E budget _ command
  have hcalls : ∀ call ∈ calls done.events, call.reading.WellFormed := fun call hcall =>
    (wellFormed_calls E budget hwf command call hcall).1
  have hreply : ∀ error, done.reply = .failed error ↔
      ∃ source, BreaksOff done.events source ∧ command.errorOf? source = some error := by
    intro error
    simp only [breaksOff_iff hstop hcalls]
    exact reply_eq_failed_iff E budget _ command error
  have hsome : (∃ error, done.reply = .failed error) ↔
      ∃ event ∈ done.events, ∃ e, event.Fails e := by
    constructor
    · rintro ⟨error, h⟩
      obtain ⟨source, ⟨earlier, last, hevents, hlast, -⟩, -⟩ := (hreply error).mp h
      exact ⟨last, hevents ▸ List.mem_append_right _ List.mem_cons_self, source, hlast⟩
    · rintro ⟨event, hmem, e, he⟩
      rw [Event.fails_iff fun c hc => hcalls c (mem_calls.mpr (hc ▸ hmem))] at he
      rcases Step.failure?_eq_some_iff.mp (hstop.of_failure? hmem he).2 with h | h
      · exact ⟨_, h⟩
      · exact ⟨_, h⟩
  refine ⟨hreply, hsome, ?_, ?_⟩
  · intro hread hextract error h
    obtain ⟨source, -, herror⟩ := (hreply error).mp h
    cases command with
    | read => exact hread rfl
    | extract => exact hextract rfl
    | _ => cases herror
  · intro haccepted hran error h
    obtain ⟨event, hmem, e, he⟩ := hsome.mp ⟨error, h⟩
    cases he with
    | refused hreport =>
      obtain ⟨r, hr⟩ := haccepted _ (mem_calls.mpr hmem)
      rw [Call.report_of_accepted? hr] at hreport
      cases hreport
    | overreported hreport hover =>
      obtain ⟨r, hr⟩ := haccepted _ (mem_calls.mpr hmem)
      have hcounts := Call.counts_of_accepted? hr
      rw [Call.report_of_accepted? hr, Except.ok.injEq] at hreport
      subst hreport
      omega
    | task => exact hran e hmem

/-- A read fails at the second task that an overflowing unwrap of the driver has left, behind a wrap
and an answer of underflow. An extraction whose only wrap finds the session closed does not fail,
and nor does a query. -/
theorem errors_exact_behind_tasks :
    let script : Scripted :=
      { stepping := true
        statuses := [.notHandshaking, .needWrap, .needUnwrap, .notHandshaking, .needTask]
        tasks := [none, some "unknown issuer", none]
        unwraps := [.give .ok (some 1) (.bytes [7]), .give .overflow (some 1) (.bytes [8]),
          .give .underflow (some 0) (.bytes [])]
        wraps := [.give .ok (some 0) (.bytes [1, 2]), .give .closed (some 0) (.bytes [])] }
    let commands : List Command := [.inject [1, 2, 3]]
    let later : List Command := commands ++ [.read, .extract, .write [9]]
    let start := new Scripted.engine script
    let failed := (after Scripted.engine 9 start commands).step Scripted.engine 9 .read
    let extracted := (after Scripted.engine 9 start later).step Scripted.engine 9 .extract
    let asked := (after Scripted.engine 9 start later).step Scripted.engine 9 .handshakeStatus
    (calls failed.events).map (·.direction) = [.unwrap, .wrap, .unwrap, .unwrap] ∧
      BreaksOff failed.events (.task "unknown issuer") ∧
      failed.reply = .failed (.unexpectedEof (.task "unknown issuer")) ∧
      (∃ call, calls extracted.events = [call] ∧ call.report = .ok ⟨.closed, 0, 0⟩) ∧
      (∀ error, extracted.reply ≠ .failed error) ∧
      ∀ error, asked.reply ≠ .failed error := by
  intro script commands later start failed extracted asked
  have hread := errors_exact Scripted.engine 9 script commands .read
  have hextract := errors_exact Scripted.engine 9 script later .extract
  have hquery := errors_exact Scripted.engine 9 script later .handshakeStatus
  have hreply : failed.reply = .failed (.unexpectedEof (.task "unknown issuer")) := by decide
  obtain ⟨source, hbreaks, hsource⟩ := (hread.1 _).mp hreply
  rw [Command.errorOf?, Option.some.injEq, Error.unexpectedEof.injEq] at hsource
  subst hsource
  have hone : (calls extracted.events).length = 1 := by decide
  obtain ⟨call, hcall⟩ := List.length_eq_one_iff.mp hone
  have hreport : (calls extracted.events).all
      (fun call => decide (call.accepted? = some ⟨.closed, 0, 0⟩)) = true := by decide
  rw [List.all_eq_true] at hreport
  have haccepted : ∀ call ∈ calls extracted.events, call.accepted? = some ⟨.closed, 0, 0⟩ :=
    fun call hmem => of_decide_eq_true (hreport call hmem)
  have hran : extracted.events.all (fun event => event matches .call _ | .status _) = true := by
    decide
  rw [List.all_eq_true] at hran
  refine ⟨by decide, hbreaks, hreply, ⟨call, hcall, ?_⟩, ?_, ?_⟩
  · exact Call.report_of_accepted? (haccepted call (hcall ▸ List.mem_cons_self))
  · exact hextract.2.2.2 (fun call hmem => ⟨_, haccepted call hmem⟩) fun e he => nomatch hran _ he
  · exact hquery.2.2.1 (by decide) (by decide)

end Connection

end RecordLayer
