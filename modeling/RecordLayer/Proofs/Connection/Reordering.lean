import Mathlib.Logic.Relation
import RecordLayer.Engine.Scripted
import RecordLayer.Proofs.Connection.Conservation

/-!
# Commands in another order

The two directions of a connection have nothing but the engine in common. Injecting only fills the
inbound buffer and writing only replaces the mailbox, so either may come before or after what works
in the other direction. How the injected bytes are cut into pieces decides about the size of the
inbound buffer, but not about what it holds, and only that is ever read.

* `Exchange` is one such change of a history, and `Interchangeable` allows any number of them;
* `Alike` relates connections that differ at most in the room of their inbound buffers;
* `Matches` says that two stretches of commands have the same answers, make the same engine calls
  and end alike: `alike_matches` for the same commands, `Exchange.matches` for changed ones;
* `interchangeable_indistinguishable` is about whole histories.
-/

namespace RecordLayer.Connection

variable {σ : Type}

/-! ### Histories that differ in their order -/

/-- Two ways to do the same: commands of different directions in either order, and bytes that are
injected at once or in two pieces. -/
inductive Exchange : List Command → List Command → Prop
  | injectWrite (bs payload : Bytes) :
    Exchange [.inject bs, .write payload] [.write payload, .inject bs]
  | injectExtract (bs : Bytes) : Exchange [.inject bs, .extract] [.extract, .inject bs]
  | writeRead (payload : Bytes) : Exchange [.write payload, .read] [.read, .write payload]
  | split (front back : Bytes) : Exchange [.inject (front ++ back)] [.inject front, .inject back]

/-- One change somewhere in a history. -/
inductive Changes : List Command → List Command → Prop
  | within (earlier later : List Command) {xs ys : List Command} (h : Exchange xs ys) :
    Changes (earlier ++ (xs ++ later)) (earlier ++ (ys ++ later))

/-- Histories that any number of changes, in either direction, turn into each other. -/
def Interchangeable : List Command → List Command → Prop :=
  Relation.EqvGen Changes

/-! ### Connections that differ in their room -/

/-- The connections differ at most in the room that their inbound buffers have. -/
structure Alike (c d : Connection σ) : Prop where
  wellFormed : c.WellFormed
  wellFormed' : d.WellFormed
  engine : c.engine = d.engine
  held : c.inbound.held = d.inbound.held
  mailbox : c.mailbox = d.mailbox
  outbound : c.outbound = d.outbound

theorem Alike.refl {c : Connection σ} (h : c.WellFormed) : Alike c c :=
  ⟨h, h, rfl, rfl, rfl, rfl⟩

theorem Alike.symm {c d : Connection σ} (h : Alike c d) : Alike d c :=
  ⟨h.wellFormed', h.wellFormed, h.engine.symm, h.held.symm, h.mailbox.symm, h.outbound.symm⟩

theorem Alike.trans {c d e : Connection σ} (h : Alike c d) (h' : Alike d e) : Alike c e :=
  ⟨h.wellFormed, h'.wellFormed', h.engine.trans h'.engine, h.held.trans h'.held,
    h.mailbox.trans h'.mailbox, h.outbound.trans h'.outbound⟩

theorem Alike.position {c d : Connection σ} (h : Alike c d) :
    c.inbound.position = d.inbound.position := by
  rw [← Buffer.length_held h.wellFormed.inbound, h.held, Buffer.length_held h.wellFormed'.inbound]

theorem Alike.opening_eq {c d : Connection σ} (h : Alike c d) (E : Engine σ) :
    opening E c = opening E d := by
  simp only [opening, h.engine, h.held, h.outbound]

/-- Outcomes that a host cannot tell apart. -/
structure OutcomesAlike {α : Type} (o p : Outcome (Connection σ) Error α) : Prop where
  events : o.events = p.events
  verdict : o.verdict = p.verdict
  state : Alike o.state p.state

/-- The end of a read leaves the same bytes, whatever the room of the inbound buffer is. -/
theorem Alike.closing {c d : Connection σ} (h : Alike c d)
    {o : Outcome (Handshake σ) EngineError Unit} (hc : (closing c o).state.WellFormed)
    (hd : (closing d o).state.WellFormed)
    (hposition : o.state.inbound.position ≤ c.inbound.position) :
    OutcomesAlike (closing c o) (closing d o) where
  events := by rw [events_closing, events_closing]
  verdict := by
    rw [Connection.closing, Connection.closing]
    cases o.verdict <;> rfl
  state := by
    refine ⟨hc, hd, ?_, ?_, ?_, ?_⟩
    · rw [engine_closing, engine_closing]
    · have hposition' : o.state.inbound.position ≤ d.inbound.position := h.position ▸ hposition
      have hturned := wellFormed_turned h.wellFormed.inbound hposition
      have hturned' := wellFormed_turned h.wellFormed'.inbound hposition'
      rw [Connection.closing, Connection.closing]
      split
      · show (settle (turned c _)).held = (settle (turned d _)).held
        rw [held_settle hturned, held_settle hturned', region_turned, region_turned, h.held]
      · show (turned c _).held = (turned d _).held
        rw [held_turned hposition, held_turned hposition', h.held]
      · show (turned c _).held = (turned d _).held
        rw [held_turned hposition, held_turned hposition', h.held]
    · rw [mailbox_closing, mailbox_closing, h.mailbox]
    · rw [outbound_closing, outbound_closing]

theorem Alike.read {c d : Connection σ} (h : Alike c d) (E : Engine σ) (budget : Nat) :
    OutcomesAlike (c.read E budget) (d.read E budget) := by
  have hc := (read_moved E budget h.wellFormed).wellFormed
  have hd := (read_moved E budget h.wellFormed').wellFormed
  have hposition := h.position
  rcases Nat.eq_zero_or_pos c.inbound.position with hzero | hpos
  · rw [read_empty E budget hzero] at hc ⊢
    rw [hposition] at hzero
    rw [read_empty E budget hzero] at hd ⊢
    exact ⟨rfl, rfl, hc, hd, h.engine, rfl, h.mailbox, h.outbound⟩
  · obtain ⟨hreceived, hwithin⟩ := position_received E budget h.wellFormed
    rw [Buffer.length_held h.wellFormed.inbound, ← hreceived] at hwithin
    rw [read_full E budget hpos] at hc ⊢
    rw [hposition] at hpos
    rw [read_full E budget hpos, ← h.opening_eq] at hd ⊢
    exact h.closing hc hd hwithin

theorem closingWrap_inbound (c : Connection σ) (inbound : Buffer)
    (o : Outcome (Transfer σ) EngineError Report) :
    closingWrap { c with inbound } o = (closingWrap c o).mapState fun c => { c with inbound } := by
  rcases o with ⟨t, events, verdict⟩
  cases verdict <;> rfl

/-- The inbound buffer has no part in an extraction. -/
theorem extract_inbound (E : Engine σ) (budget : Nat) (c : Connection σ) (inbound : Buffer) :
    { c with inbound }.extract E budget =
      (c.extract E budget).mapState fun c => { c with inbound } := by
  rcases Nat.eq_zero_or_pos c.outbound.position with hzero | hpos
  · cases hmailbox : c.mailbox.hasRemaining with
    | false =>
      rw [extract_idle E budget (c := { c with inbound }) hzero hmailbox,
        extract_idle E budget hzero hmailbox]
      rfl
    | true =>
      rw [extract_wrap E budget (c := { c with inbound }) hzero hmailbox,
        extract_wrap E budget hzero hmailbox, closingWrap_inbound]
  · rw [extract_pending E budget (c := { c with inbound }) hpos, extract_pending E budget hpos]
    rfl

theorem inject_extract (E : Engine σ) (budget : Nat) {c : Connection σ} (h : c.WellFormed)
    (bs : Bytes) :
    (c.inject bs).extract E budget = (c.extract E budget).mapState fun c => c.inject bs := by
  have hinbound := (extract_moved E budget h).inbound
  rw [inject, extract_inbound]
  simp only [Outcome.mapState, inject, hinbound]

theorem closing_mailbox (c : Connection σ) (mailbox : Buffer)
    (o : Outcome (Handshake σ) EngineError Unit) :
    closing { c with mailbox } o = (closing c o).mapState fun c => { c with mailbox } := by
  rcases o with ⟨h, events, verdict⟩
  cases verdict <;> rfl

/-- The mailbox has no part in a read. -/
theorem read_mailbox (E : Engine σ) (budget : Nat) (c : Connection σ) (mailbox : Buffer) :
    { c with mailbox }.read E budget =
      (c.read E budget).mapState fun c => { c with mailbox } := by
  rcases Nat.eq_zero_or_pos c.inbound.position with hzero | hpos
  · rw [read_empty E budget (c := { c with mailbox }) hzero, read_empty E budget hzero]
    rfl
  · rw [read_full E budget (c := { c with mailbox }) hpos, read_full E budget hpos, closing_mailbox]
    rfl

theorem write_read (E : Engine σ) (budget : Nat) (c : Connection σ) (payload : Bytes) :
    (c.write payload).state.read E budget =
      (c.read E budget).mapState fun c => (c.write payload).state :=
  read_mailbox E budget c (.ofBytes payload)

theorem Alike.extract {c d : Connection σ} (h : Alike c d) (E : Engine σ) (budget : Nat) :
    OutcomesAlike (c.extract E budget) (d.extract E budget) := by
  have hc := (extract_moved E budget h.wellFormed).wellFormed
  have hd := (extract_moved E budget h.wellFormed').wellFormed
  have hinbound := (extract_moved E budget h.wellFormed).inbound
  have hsame : d = { c with inbound := d.inbound } := by
    obtain ⟨-, -, hengine, -, hmailbox, houtbound⟩ := h
    cases d
    simp only [hengine, hmailbox, houtbound]
  have hextract : d.extract E budget =
      (c.extract E budget).mapState fun c => { c with inbound := d.inbound } := by
    rw [← extract_inbound, ← hsame]
  rw [hextract] at hd ⊢
  exact ⟨rfl, rfl, hc, hd, rfl, (congrArg Buffer.held hinbound).trans h.held, rfl, rfl⟩

/-- What one command does on connections that are alike. Diagnostics show the room; all other
replies are the same. -/
structure StepsAlike (command : Command) (s t : Step σ) : Prop where
  events : s.events = t.events
  reply : command ≠ .describe → s.reply = t.reply
  connection : Alike s.connection t.connection

theorem OutcomesAlike.step {α : Type} {o p : Outcome (Connection σ) Error α} (h : OutcomesAlike o p)
    (command : Command) (reply : α → Reply) :
    StepsAlike command (.ofOutcome o reply) (.ofOutcome p reply) := by
  refine ⟨h.events, fun _ => ?_, h.state⟩
  simp only [Step.ofOutcome, h.verdict]

theorem Alike.step {c d : Connection σ} (h : Alike c d) (E : Engine σ) (budget : Nat)
    (command : Command) :
    StepsAlike command (c.step E budget command) (d.step E budget command) := by
  cases command with
  | read => exact (h.read E budget).step .read .payload
  | extract => exact (h.extract E budget).step .extract .payload
  | inject bs =>
    refine ⟨rfl, fun _ => rfl, wellFormed_inject h.wellFormed bs,
      wellFormed_inject h.wellFormed' bs, h.engine, ?_, h.mailbox, h.outbound⟩
    show (c.inbound.put bs).held = (d.inbound.put bs).held
    rw [Buffer.held_put h.wellFormed.inbound, Buffer.held_put h.wellFormed'.inbound, h.held]
  | write bs =>
    refine ⟨?_, fun _ => rfl, wellFormed_write h.wellFormed bs, wellFormed_write h.wellFormed' bs,
      h.engine, h.held, rfl, h.outbound⟩
    show (if c.mailbox.hasRemaining then _ else _) = if d.mailbox.hasRemaining then _ else _
    rw [h.mailbox]
  | peerCertificate =>
    refine ⟨rfl, fun _ => ?_, h⟩
    show Reply.certificate ((E.peerCertificates c.engine).bind _) = .certificate _
    rw [h.engine]
    rfl
  | handshakeStatus =>
    refine ⟨rfl, fun _ => ?_, h⟩
    show Reply.status (E.handshakeStatus c.engine) = .status (E.handshakeStatus d.engine)
    rw [h.engine]
  | shutdown => exact ⟨rfl, fun _ => rfl, h⟩
  | isInitializing => exact ⟨rfl, fun _ => rfl, h⟩
  | describe => exact ⟨rfl, fun hne => absurd rfl hne, h⟩

/-! ### What a host learns -/

/-- The command asks for something that the host does not know. Injecting and writing tell nothing
new, and diagnostics tell of the room. -/
def Command.asks : Command → Bool
  | .inject _ | .write _ | .describe => false
  | _ => true

/-- The answer to a command that asks: its reply and what was done for it. -/
structure Answer where
  command : Command
  events : List Event
  reply : Reply

def answers (past : Past σ) : List Answer :=
  (past.filter (·.1.asks)).map fun p => ⟨p.1, p.2.events, p.2.reply⟩

theorem answers_append (earlier later : Past σ) :
    answers (earlier ++ later) = answers earlier ++ answers later := by
  simp only [answers, List.filter_append, List.map_append]

theorem answers_singleton (command : Command) (s : Step σ) :
    answers [(command, s)] = if command.asks then [⟨command, s.events, s.reply⟩] else [] := by
  cases hasks : command.asks <;> simp [answers, hasks]

/-- All engine calls are made for commands that ask. -/
theorem traced_eq_answers (E : Engine σ) (budget : Nat) (c : Connection σ)
    (commands : List Command) :
    traced (performed E budget c commands) =
      (answers (performed E budget c commands)).flatMap (calls ·.events) := by
  induction commands generalizing c with
  | nil => rfl
  | cons command rest ih =>
    rw [performed_cons, ← List.singleton_append, traced_append, answers_append,
      List.flatMap_append, ih, answers_singleton]
    congr 1
    cases hasks : command.asks with
    | true => simp [traced]
    | false =>
      have hidle : calls (c.step E budget command).events = [] :=
        calls_step_idle E budget c (by rintro rfl; cases hasks) (by rintro rfl; cases hasks)
      simp [traced, hidle]

/-- Two stretches of commands answer the same and end alike. -/
structure Matches (E : Engine σ) (budget : Nat) (c : Connection σ) (xs : List Command)
    (d : Connection σ) (ys : List Command) : Prop where
  answers : answers (performed E budget c xs) = answers (performed E budget d ys)
  alike : Alike (after E budget c xs) (after E budget d ys)

variable {E : Engine σ} {budget : Nat} {c d e : Connection σ} {xs ys zs ws : List Command}

theorem Matches.symm (h : Matches E budget c xs d ys) : Matches E budget d ys c xs :=
  ⟨h.answers.symm, h.alike.symm⟩

theorem Matches.trans (h : Matches E budget c xs d ys) (h' : Matches E budget d ys e zs) :
    Matches E budget c xs e zs :=
  ⟨h.answers.trans h'.answers, h.alike.trans h'.alike⟩

theorem Matches.append (h : Matches E budget c xs d ys)
    (h' : Matches E budget (after E budget c xs) zs (after E budget d ys) ws) :
    Matches E budget c (xs ++ zs) d (ys ++ ws) := by
  constructor
  · rw [performed_append, performed_append, answers_append, answers_append, h.answers, h'.answers]
  · rw [after_append, after_append]
    exact h'.alike

theorem Alike.matches_singleton (h : Alike c d) (command : Command) :
    Matches E budget c [command] d [command] := by
  have hstep := h.step E budget command
  refine ⟨?_, hstep.connection⟩
  show Connection.answers [(command, c.step E budget command)] =
    Connection.answers [(command, d.step E budget command)]
  rw [answers_singleton, answers_singleton, hstep.events]
  cases hasks : command.asks with
  | false => rfl
  | true => rw [hstep.reply (by rintro rfl; cases hasks)]

/-- The same commands from connections that are alike. -/
theorem Alike.matches (h : Alike c d) (commands : List Command) :
    Matches E budget c commands d commands := by
  induction commands generalizing c d with
  | nil => exact ⟨rfl, h⟩
  | cons command rest ih =>
    have hfirst : Matches E budget c [command] d [command] := h.matches_singleton command
    exact hfirst.append (ih hfirst.alike)

/-- A command that does not ask may come before one that asks or after it, if that one answers the
same and both end the same. -/
theorem matches_swap {silent asking : Command} (hsilent : silent.asks = false) (hc : c.WellFormed)
    {answered : Step σ}
    (hanswered : (c.step E budget silent).connection.step E budget asking = answered)
    (hevents : answered.events = (c.step E budget asking).events)
    (hreply : answered.reply = (c.step E budget asking).reply)
    (hend : answered.connection =
      ((c.step E budget asking).connection.step E budget silent).connection) :
    Matches E budget c [silent, asking] c [asking, silent] := by
  subst hanswered
  constructor
  · show Connection.answers ([(silent, _)] ++ [(asking, _)]) =
      Connection.answers ([(asking, c.step E budget asking)] ++ [(silent, _)])
    rw [answers_append, answers_append, answers_singleton, answers_singleton, answers_singleton,
      answers_singleton, hsilent, hevents, hreply]
    exact (List.append_nil _).symm
  · have hafter : after E budget c [silent, asking] = after E budget c [asking, silent] := hend
    rw [hafter]
    exact .refl (wellFormed_after E budget hc _)

/-- Each change goes unnoticed. -/
theorem Exchange.matches (h : Exchange xs ys) (hc : c.WellFormed) :
    Matches E budget c xs c ys := by
  cases h with
  | injectWrite bs payload => exact ⟨rfl, .refl (wellFormed_after E budget hc _)⟩
  | injectExtract bs =>
    have hextract := congrArg (Step.ofOutcome · .payload) (inject_extract E budget hc bs)
    exact matches_swap rfl hc hextract rfl rfl rfl
  | writeRead payload =>
    have hread := congrArg (Step.ofOutcome · .payload) (write_read E budget c payload)
    exact matches_swap rfl hc hread rfl rfl rfl
  | split front back =>
    refine ⟨rfl, wellFormed_after E budget hc _, wellFormed_after E budget hc _, rfl, ?_, rfl, rfl⟩
    show (c.inbound.put (front ++ back)).held = ((c.inbound.put front).put back).held
    rw [Buffer.held_put hc.inbound, Buffer.held_put (Buffer.wellFormed_put hc.inbound front),
      Buffer.held_put hc.inbound, List.append_assoc]

theorem Changes.matches (h : Changes xs ys) (hc : c.WellFormed) : Matches E budget c xs c ys := by
  obtain ⟨earlier, later, hexchange⟩ := h
  have hbefore : Matches E budget c earlier c earlier := (Alike.refl hc).matches earlier
  have hwithin : Matches E budget (after E budget c earlier) _ (after E budget c earlier) _ :=
    hexchange.matches (wellFormed_after E budget hc earlier)
  exact hbefore.append (hwithin.append (hwithin.alike.matches later))

theorem Interchangeable.matches (h : Interchangeable xs ys) (hc : c.WellFormed) :
    Matches E budget c xs c ys := by
  induction h with
  | rel _ _ hchange => exact hchange.matches hc
  | refl xs => exact (Alike.refl hc).matches xs
  | symm _ _ _ ih => exact ih.symm
  | trans _ _ _ _ _ ih ih' => exact ih.trans ih'

/-- Histories that differ in the order of independent commands, or in how the injected bytes are cut
into pieces, cannot be told apart: reads, extractions and queries have the same replies and do the
same with the engine, failures included, and the connections end with the same engine, mailbox and
outbound buffer and hold the same inbound bytes. -/
theorem interchangeable_indistinguishable (E : Engine σ) (budget : Nat) (s : σ)
    {commands commands' : List Command} (h : Interchangeable commands commands') :
    answers (performed E budget (new E s) commands) =
        answers (performed E budget (new E s) commands') ∧
      traced (performed E budget (new E s) commands) =
        traced (performed E budget (new E s) commands') ∧
      (after E budget (new E s) commands).engine = (after E budget (new E s) commands').engine ∧
      (after E budget (new E s) commands).mailbox = (after E budget (new E s) commands').mailbox ∧
      (after E budget (new E s) commands).outbound = (after E budget (new E s) commands').outbound ∧
      (after E budget (new E s) commands).inbound.held =
        (after E budget (new E s) commands').inbound.held := by
  have hm : Matches E budget (new E s) commands (new E s) commands' :=
    h.matches (wellFormed_new E s)
  refine ⟨hm.answers, ?_, hm.alike.engine, hm.alike.mailbox, hm.alike.outbound, hm.alike.held⟩
  rw [traced_eq_answers, traced_eq_answers, hm.answers]

/-- The first read fails in the middle of what was injected. Cutting that differently leaves inbound
buffers of different sizes behind. -/
theorem interchangeable_indistinguishable_after_failure :
    let script : Scripted :=
      { packet := 2
        unwraps := [.give .overflow (some 1) (.bytes [7]), .fail (.io "connection reset"),
          .echo 0 none none]
        wraps := [.echo 1 none none] }
    let commands : List Command :=
      [.inject [1, 2, 3], .write [9], .read, .inject [5], .extract, .read]
    let commands' : List Command :=
      [.inject [1], .inject [2, 3], .read, .write [9], .extract, .inject [5], .read]
    let past := performed Scripted.engine 9 (new Scripted.engine script) commands
    let past' := performed Scripted.engine 9 (new Scripted.engine script) commands'
    Interchangeable commands commands' ∧
      (past.filter (·.1.asks)).map (·.2.reply) =
        [.failed (.unexpectedEof (.io "connection reset")), .payload (some [8]),
          .payload (some [1, 5])] ∧
      (after Scripted.engine 9 (new Scripted.engine script) commands).inbound ≠
        (after Scripted.engine 9 (new Scripted.engine script) commands').inbound ∧
      answers past = answers past' := by
  intro script commands commands' past past'
  have hsplit := Changes.within [] [.write [9], .read, .inject [5], .extract, .read]
    (.split [1] [2, 3])
  have hread := Changes.within [.inject [1], .inject [2, 3]] [.inject [5], .extract, .read]
    (.writeRead [9])
  have hextract := Changes.within [.inject [1], .inject [2, 3], .read, .write [9]] [.read]
    (.injectExtract [5])
  have h : Interchangeable commands commands' :=
    .trans _ _ _ (.rel _ _ hsplit) (.trans _ _ _ (.rel _ _ hread) (.rel _ _ hextract))
  exact ⟨h, by decide, by decide,
    (interchangeable_indistinguishable Scripted.engine 9 script h).1⟩

end RecordLayer.Connection
