import RecordLayer.Proofs.Connection.Plaintext

/-!
# Connections without work

A host polls: it reads and extracts whether there is work or not. The engine must not notice if
there is none. Whether there is work is decided by a few cursors, and the decision itself moves
cursors: a buffer is turned around, found empty and cleared.

* `Touches` says that a trace has an engine call or a step with tasks in it;
* `touches_read_iff` and `touches_extract_iff` say when an operation touches the engine, and
  `engine_of_untouched` that nothing else changes it;
* `Idle` is a connection without work, and `polled_step` what one poll does to it;
* `engine_touched_for_work` has this for all polls of an idle connection, and that no operation ever
  returns an empty payload.
-/

namespace RecordLayer

/-- The event is an engine call or a step with tasks. To ask for the status changes nothing. -/
def Event.touches : Event → Bool
  | .call _ | .fetched _ | .ran _ => true
  | .grown .. | .status _ | .tasksDone _ | .turn _ | .discarded _ => false

/-- The engine was called, or asked for a task, or given one to run. -/
def Touches (events : List Event) : Prop :=
  ∃ event ∈ events, event.touches = true

instance (events : List Event) : Decidable (Touches events) :=
  inferInstanceAs (Decidable (∃ event ∈ events, event.touches = true))

theorem not_touches_nil : ¬Touches [] := by
  rintro ⟨_, hevent, -⟩
  cases hevent

theorem Touches.mono {events more : List Event} (h : Touches events) (hfront : events <+: more) :
    Touches more := by
  obtain ⟨event, hevent, htouches⟩ := h
  exact ⟨event, hfront.subset hevent, htouches⟩

/-- A transfer begins with a call. -/
theorem Transfer.touches_run {σ : Type} (E : Engine σ) (direction : Direction) (budget : Nat)
    (t : Transfer σ) : Touches (run E direction (budget + 1) t).events := by
  have hfirst : Touches [.call (nextCall E direction t)] := ⟨_, List.mem_singleton_self _, rfl⟩
  exact hfirst.mono (run_starts E direction budget t)

namespace Connection

variable {σ : Type}

/-! ### When the engine is touched -/

section

variable (E : Engine σ) (budget : Nat) (c : Connection σ)

theorem touches_receive (h : Handshake σ) : Touches (receive E (budget + 1) h).events := by
  have hunwrap : Touches (h.unwrap E (budget + 1)).events := Transfer.touches_run E _ _ _
  exact hunwrap.mono (Outcome.prefix_andThen _ _)

theorem touches_read_iff :
    Touches (c.step E (budget + 1) .read).events ↔ 0 < c.inbound.position := by
  show Touches (c.read E (budget + 1)).events ↔ _
  rcases Nat.eq_zero_or_pos c.inbound.position with hzero | hpos
  · rw [read_empty E _ hzero]
    exact iff_of_false not_touches_nil (by omega)
  · rw [read_full E _ hpos, events_closing]
    exact iff_of_true (touches_receive E budget _) hpos

theorem touches_extract_iff :
    Touches (c.step E (budget + 1) .extract).events ↔
      c.outbound.position = 0 ∧ c.mailbox.hasRemaining = true := by
  show Touches (c.extract E (budget + 1)).events ↔ _
  rcases Nat.eq_zero_or_pos c.outbound.position with hzero | hpos
  · cases hmailbox : c.mailbox.hasRemaining with
    | false =>
      rw [extract_idle E _ hzero hmailbox]
      exact iff_of_false not_touches_nil (by simp)
    | true =>
      rw [extract_wrap E _ hzero hmailbox, events_closingWrap]
      exact iff_of_true (Transfer.touches_run E _ _ _) ⟨hzero, rfl⟩
  · rw [extract_pending E _ hpos]
    exact iff_of_false not_touches_nil fun h => absurd h.1 (Nat.ne_of_gt hpos)

/-- What is pending goes out as it is, and all of it. -/
structure Flushed (c : Connection σ) (s : Step σ) : Prop where
  reply : s.reply = .payload (some c.outbound.held)
  events : s.events = []
  engine : s.connection.engine = c.engine
  inbound : s.connection.inbound = c.inbound
  mailbox : s.connection.mailbox = c.mailbox
  outbound : s.connection.outbound.held = []

theorem flushed_extract (h : 0 < c.outbound.position) : Flushed c (c.step E budget .extract) := by
  rw [step, extract_pending E budget h]
  exact ⟨rfl, rfl, rfl, rfl, rfl, Buffer.held_clear _⟩

theorem not_touches_other {command : Command} (hread : command ≠ .read)
    (hextract : command ≠ .extract) : ¬Touches (c.step E budget command).events := by
  cases command with
  | read => exact absurd rfl hread
  | extract => exact absurd rfl hextract
  | write bs =>
    rintro ⟨event, hevent, htouches⟩
    have hdiscarded : event = .discarded c.mailbox.remaining := by
      simp only [step, Step.ofOutcome, write] at hevent
      split at hevent
      · exact List.mem_singleton.mp hevent
      · cases hevent
    rw [hdiscarded] at htouches
    cases htouches
  | inject | peerCertificate | handshakeStatus | shutdown | isInitializing | describe =>
    rw [step]
    exact not_touches_nil

/-- Nothing else changes the engine. -/
theorem engine_of_untouched {command : Command}
    (h : ¬Touches (c.step E (budget + 1) command).events) :
    (c.step E (budget + 1) command).connection.engine = c.engine := by
  cases command with
  | read =>
    rw [touches_read_iff, Nat.not_lt, Nat.le_zero] at h
    rw [step, read_empty E _ h]
    rfl
  | extract =>
    rw [touches_extract_iff, not_and, Bool.not_eq_true] at h
    rcases Nat.eq_zero_or_pos c.outbound.position with hzero | hpos
    · rw [step, extract_idle E _ hzero (h hzero)]
      rfl
    · exact (flushed_extract E _ c hpos).engine
  | inject | write | peerCertificate | handshakeStatus | shutdown | isInitializing | describe => rfl

end

/-! ### Without work -/

/-- Nothing was injected that is not read, nothing waits for a wrap, and nothing for extraction. -/
structure Idle (c : Connection σ) : Prop where
  inbound : c.inbound.position = 0
  mailbox : c.mailbox.hasRemaining = false
  outbound : c.outbound.position = 0

/-- The command brings no new work. -/
def Command.polls : Command → Bool
  | .inject _ | .write _ => false
  | .read | .extract | .peerCertificate | .handshakeStatus | .shutdown | .isInitializing
  | .describe => true

/-- Polling has changed cursors at most: what buffers hold is as it was, and so are the bytes that
they hold no more. -/
structure Unmoved (c d : Connection σ) : Prop where
  engine : d.engine = c.engine
  mailbox : d.mailbox = c.mailbox
  inbound : d.inbound.held = c.inbound.held ∧ d.inbound.storage = c.inbound.storage
  outbound : d.outbound.held = c.outbound.held ∧ d.outbound.storage = c.outbound.storage

theorem Unmoved.refl (c : Connection σ) : Unmoved c c :=
  ⟨rfl, rfl, ⟨rfl, rfl⟩, ⟨rfl, rfl⟩⟩

theorem Unmoved.trans {c d e : Connection σ} (h : Unmoved c d) (h' : Unmoved d e) : Unmoved c e :=
  ⟨h'.engine.trans h.engine, h'.mailbox.trans h.mailbox,
    ⟨h'.inbound.1.trans h.inbound.1, h'.inbound.2.trans h.inbound.2⟩,
    ⟨h'.outbound.1.trans h.outbound.1, h'.outbound.2.trans h.outbound.2⟩⟩

/-- What a poll of an idle connection does: nothing. -/
structure Polled (c : Connection σ) (command : Command) (s : Step σ) : Prop where
  events : s.events = []
  reply : command = .read ∨ command = .extract → s.reply = .payload none
  unmoved : Unmoved c s.connection

/-- Turning an empty buffer around and clearing it leaves it empty. -/
theorem unmoved_clear {b : Buffer} (h : b.position = 0) :
    b.flip.clear.held = b.held ∧ b.flip.clear.storage = b.storage := by
  rw [Buffer.held_clear, Buffer.held_eq_nil h]
  exact ⟨rfl, rfl⟩

theorem polled_step (E : Engine σ) (budget : Nat) {c : Connection σ} (h : Idle c)
    {command : Command} (hpolls : command.polls = true) :
    Polled c command (c.step E budget command) ∧ Idle (c.step E budget command).connection := by
  cases command with
  | read =>
    rw [step, read_empty E budget h.inbound]
    exact ⟨⟨rfl, fun _ => rfl, { Unmoved.refl c with inbound := unmoved_clear h.inbound }⟩,
      { h with inbound := rfl }⟩
  | extract =>
    rw [step, extract_idle E budget h.outbound h.mailbox]
    exact ⟨⟨rfl, fun _ => rfl, { Unmoved.refl c with outbound := unmoved_clear h.outbound }⟩,
      { h with outbound := rfl }⟩
  | inject bs => cases hpolls
  | write bs => cases hpolls
  | peerCertificate | handshakeStatus | shutdown | isInitializing | describe =>
    exact ⟨⟨rfl, by simp, .refl c⟩, h⟩

theorem polled_performed (E : Engine σ) (budget : Nat) {c : Connection σ} (h : Idle c)
    {polls : List Command} (hpolls : ∀ command ∈ polls, command.polls = true) :
    ∀ p ∈ performed E budget c polls, Polled c p.1 p.2 := by
  induction polls generalizing c with
  | nil => exact fun p hp => absurd hp List.not_mem_nil
  | cons command rest ih =>
    obtain ⟨hfirst, hidle⟩ := polled_step E budget h (hpolls command List.mem_cons_self)
    intro p hp
    rw [performed_cons] at hp
    rcases List.mem_cons.mp hp with rfl | hrest
    · exact hfirst
    · have hothers : ∀ command ∈ rest, command.polls = true := fun command hmem =>
        hpolls command (List.mem_cons_of_mem _ hmem)
      have hlater := ih hidle hothers p hrest
      exact ⟨hlater.events, hlater.reply, hfirst.unmoved.trans hlater.unmoved⟩

/-! ### Payloads -/

theorem extract_ne_empty (E : Engine σ) (budget : Nat) {c : Connection σ} (h : c.WellFormed)
    {payload : Option Bytes} (hdone : (c.extract E budget).verdict = .done payload) :
    payload ≠ some [] := by
  rcases Nat.eq_zero_or_pos c.outbound.position with hzero | hpos
  · cases hmailbox : c.mailbox.hasRemaining with
    | false =>
      rw [extract_idle E budget hzero hmailbox] at hdone
      cases hdone
      nofun
    | true =>
      rw [extract_wrap E budget hzero hmailbox, closingWrap] at hdone
      split at hdone
      · cases hdone
        exact Buffer.drain_ne_empty (Transfer.run_moved E .wrap budget
          (t := ⟨c.engine, c.mailbox, c.outbound.flip.clear.clear⟩) h.mailbox
          (Buffer.wellFormed_clear _)).destination.wellFormed
      · cases hdone
      · cases hdone
  · have hlen := Buffer.length_held h.outbound
    rw [extract_pending E budget hpos] at hdone
    cases hdone
    intro hempty
    rw [Option.some.inj hempty, List.length_nil] at hlen
    omega

theorem reply_ne_empty (E : Engine σ) (budget : Nat) {c : Connection σ} (h : c.WellFormed)
    (command : Command) : (c.step E budget command).reply ≠ .payload (some []) := by
  cases command with
  | read => exact fun hreply => read_ne_empty E budget h (verdict_of_reply hreply) rfl
  | extract => exact fun hreply => extract_ne_empty E budget h (verdict_of_reply hreply) rfl
  | inject | write | peerCertificate | handshakeStatus | shutdown | isInitializing | describe =>
    nofun

/-- The engine is touched only when there is work: by a read if something is held that came in, by
an extraction if nothing is pending and something waits for a wrap. What is pending is extracted as
it is, and nothing else touches the engine or changes it. So a host can poll an idle connection as
long as it likes: every poll returns nothing, asks the engine for nothing and leaves the engine and
what the buffers hold as they were. No operation ever returns an empty payload. -/
theorem engine_touched_for_work (E : Engine σ) :
    (∀ (c : Connection σ) (budget : Nat),
      (Touches (c.step E (budget + 1) .read).events ↔ 0 < c.inbound.position) ∧
      (Touches (c.step E (budget + 1) .extract).events ↔
        c.outbound.position = 0 ∧ c.mailbox.hasRemaining = true) ∧
      (0 < c.outbound.position → Flushed c (c.step E (budget + 1) .extract)) ∧
      ∀ command,
        (command ≠ .read → command ≠ .extract →
          ¬Touches (c.step E (budget + 1) command).events) ∧
        (¬Touches (c.step E (budget + 1) command).events →
          (c.step E (budget + 1) command).connection.engine = c.engine)) ∧
    (∀ (c : Connection σ) (budget : Nat) (polls : List Command), Idle c →
      (∀ command ∈ polls, command.polls = true) →
        ∀ p ∈ performed E budget c polls, Polled c p.1 p.2) ∧
    ∀ (budget : Nat) (s : σ) (commands : List Command),
      ∀ p ∈ performed E budget (new E s) commands, p.2.reply ≠ .payload (some []) := by
  refine ⟨fun c budget => ⟨touches_read_iff E budget c, touches_extract_iff E budget c, ?_, ?_⟩,
    ?_, ?_⟩
  · exact flushed_extract E _ c
  · intro command
    exact ⟨not_touches_other E _ c, engine_of_untouched E budget c⟩
  · intro c budget polls hidle hpolls
    exact polled_performed E budget hidle hpolls
  · intro budget s commands p hp
    obtain ⟨earlier, later, -, hstep⟩ := mem_performed hp
    rw [hstep]
    exact reply_ne_empty E budget (wellFormed_after E budget (wellFormed_new E s) earlier) p.1

/-- A read fails at its first unwrap and leaves the inbound buffer turned around, with three bytes
between its cursors. None of them is held, so the connection is idle and further reads do not get to
the engine, whose next action would fail again. -/
theorem engine_touched_for_work_after_failure :
    let script : Scripted := { unwrapDefault := .fail (.io "connection reset") }
    let c := after Scripted.engine 9 (new Scripted.engine script) [.inject [1, 2, 3], .read]
    let polls : List Command := [.read, .describe, .extract, .read]
    c.inbound.region = [1, 2, 3] ∧ c.engine.calls = 1 ∧ Idle c ∧
      (∀ command ∈ polls, command.polls = true) ∧
      ∀ p ∈ performed Scripted.engine 9 c polls, Polled c p.1 p.2 := by
  intro script c polls
  have hidle : Idle c := ⟨by decide, by decide, by decide⟩
  have hpolls : ∀ command ∈ polls, command.polls = true := by decide
  obtain ⟨-, hpolled, -⟩ := engine_touched_for_work Scripted.engine
  exact ⟨by decide, by decide, hidle, hpolls, hpolled c 9 polls hidle hpolls⟩

end Connection

end RecordLayer
