import RecordLayer.Proofs.Connection.Flow
import RecordLayer.Proofs.Connection.History
import RecordLayer.Proofs.Outcome
import RecordLayer.Proofs.Transfer

/-!
# Engines that behave alike

A map from the states of one engine to those of another is a simulation if it commutes with all
answers. Then it commutes with everything that is built on engines: whole histories of connections
show the same events and give the same replies.

* `Engine.Simulates` is what one answer has to satisfy;
* `Transfer.run_simulates` and `Handshake.drive_simulates` are the loops, by induction on budgets;
* `Connection.history_simulates` and `Connection.after_simulates` are about histories.
-/

namespace RecordLayer

variable {σ τ : Type}

/-- The states of `E`, seen through `f`, answer as those of `F` do. -/
structure Engine.Simulates (E : Engine σ) (F : Engine τ) (f : σ → τ) : Prop where
  call : ∀ direction s source destination,
    F.call direction (f s) source destination =
      { engine := f (E.call direction s source destination).engine
        written := (E.call direction s source destination).written
        report := (E.call direction s source destination).report }
  handshakeStatus : ∀ s, F.handshakeStatus (f s) = E.handshakeStatus s
  nextTask : ∀ s, (F.nextTask (f s)).1 = f (E.nextTask s).1
  task : ∀ s, Option.Rel (fun (t : Task σ) (u : Task τ) => ∀ s, u (f s) = ((f (t s).1), (t s).2))
    (E.nextTask s).2 (F.nextTask (f s)).2
  packetSize : ∀ s, F.packetSize (f s) = E.packetSize s
  applicationSize : ∀ s, F.applicationSize (f s) = E.applicationSize s
  peerCertificates : ∀ s, F.peerCertificates (f s) = E.peerCertificates s

theorem Engine.Simulates.sessionSize {E : Engine σ} {F : Engine τ} {f : σ → τ}
    (h : E.Simulates F f) (s : σ) : F.sessionSize (f s) = E.sessionSize s := by
  rw [Engine.sessionSize, Engine.sessionSize, h.packetSize, h.applicationSize]

theorem Outcome.mapState_andThen {ε α β : Type} {g : σ → τ} (o : Outcome σ ε α)
    {next : σ → α → Outcome σ ε β} {next' : τ → α → Outcome τ ε β}
    (h : ∀ s a, next' (g s) a = (next s a).mapState g) :
    (o.mapState g).andThen next' = (o.andThen next).mapState g := by
  obtain ⟨s, events, verdict⟩ := o
  cases verdict with
  | done a =>
    rw [andThen_done (o := mapState ⟨s, events, .done a⟩ g) rfl,
      andThen_done (o := ⟨s, events, .done a⟩) rfl]
    exact congrArg (Outcome.after · events) (h s a)
  | failed e => rfl
  | unfinished => rfl

/-! ### Transfers -/

namespace Transfer

def map (f : σ → τ) (t : Transfer σ) : Transfer τ :=
  ⟨f t.engine, t.source, t.destination⟩

variable {E : Engine σ} {F : Engine τ} {f : σ → τ}

theorem attempt_simulates (h : E.Simulates F f) (direction : Direction) (t : Transfer σ) :
    attempt F direction (t.map f) = (attempt E direction t).mapState (map f) := by
  simp only [attempt, map, h.call]
  cases (E.call direction t.engine t.source.region t.destination.region).report with
  | error e => rfl
  | ok r =>
    simp only
    split <;> rfl

theorem exchange_simulates (h : E.Simulates F f) (direction : Direction) (budget : Nat)
    (t : Transfer σ) :
    exchange F direction budget (t.map f) = (exchange E direction budget t).mapState (map f) := by
  induction budget generalizing t with
  | zero => rfl
  | succ budget ih =>
    rw [exchange, exchange, attempt_simulates h]
    apply Outcome.mapState_andThen
    intro t r
    have hgrow : grow F (t.map f) = (grow E t).map f := by
      simp only [grow, map, h.sessionSize]
    split
    · rw [hgrow, ih]
      simp only [map, h.sessionSize]
      rfl
    · rfl

theorem runTasks_simulates (h : E.Simulates F f) (budget executed : Nat) (s : σ) :
    runTasks F budget executed (f s) = (runTasks E budget executed s).mapState f := by
  induction budget generalizing executed s with
  | zero => rfl
  | succ budget ih =>
    have hstate := h.nextTask s
    have htask := h.task s
    rw [runTasks, runTasks]
    rcases hE : E.nextTask s with ⟨s', _ | task⟩ <;>
      rcases hF : F.nextTask (f s) with ⟨u, _ | task'⟩ <;>
      rw [hE, hF] at htask <;> rw [hE, hF] at hstate
    · simp only at hstate
      rw [hstate]
      rfl
    · cases htask
    · cases htask
    · simp only at hstate
      cases htask with
      | some htask =>
        rw [hstate]
        simp only [htask]
        rcases task s' with ⟨s'', _ | e⟩
        · simp only [ih]
          rfl
        · rfl

theorem finish_simulates (h : E.Simulates F f) (budget : Nat) (t : Transfer σ) (r : Report) :
    finish F budget (t.map f) r = (finish E budget t r).mapState (map f) := by
  have hseen : F.handshakeStatus (t.map f).engine = E.handshakeStatus t.engine :=
    h.handshakeStatus t.engine
  have htasks : runTasks F budget 0 (t.map f).engine = (runTasks E budget 0 t.engine).mapState f :=
    runTasks_simulates h budget 0 t.engine
  simp only [finish, hseen]
  split
  · rw [htasks]
    rfl
  · rfl

theorem run_simulates (h : E.Simulates F f) (direction : Direction) (budget : Nat)
    (t : Transfer σ) :
    run F direction budget (t.map f) = (run E direction budget t).mapState (map f) := by
  rw [run, run, exchange_simulates h]
  exact Outcome.mapState_andThen _ fun t r => finish_simulates h budget t r

end Transfer

/-! ### The driver -/

namespace Handshake

def map (f : σ → τ) (h : Handshake σ) : Handshake τ :=
  ⟨f h.engine, h.inbound, h.scratch, h.outbound⟩

variable {E : Engine σ} {F : Engine τ} {f : σ → τ}

theorem wrap_simulates (hf : E.Simulates F f) (budget : Nat) (h : Handshake σ) :
    (h.map f).wrap F budget = (h.wrap E budget).mapState (map f) := by
  have hrun := Transfer.run_simulates hf .wrap budget ⟨h.engine, h.scratch, h.outbound⟩
  show (Transfer.run F .wrap budget
    (Transfer.map f ⟨h.engine, h.scratch, h.outbound⟩)).mapState _ = _
  rw [hrun]
  rfl

theorem unwrap_simulates (hf : E.Simulates F f) (budget : Nat) (h : Handshake σ) :
    (h.map f).unwrap F budget = (h.unwrap E budget).mapState (map f) := by
  have hrun := Transfer.run_simulates hf .unwrap budget ⟨h.engine, h.inbound, h.scratch⟩
  show (Transfer.run F .unwrap budget
    (Transfer.map f ⟨h.engine, h.inbound, h.scratch⟩)).mapState _ = _
  rw [hrun]
  rfl

theorem drive_simulates (hf : E.Simulates F f) (budget turns : Nat) (h : Handshake σ) :
    (h.map f).drive F budget turns = (h.drive E budget turns).mapState (map f) := by
  induction turns generalizing h with
  | zero => rfl
  | succ turns ih =>
    have hseen : F.handshakeStatus (h.map f).engine = E.handshakeStatus h.engine :=
      hf.handshakeStatus h.engine
    rw [drive, drive, hseen]
    cases E.handshakeStatus h.engine with
    | needWrap =>
      show (((h.map f).wrap F budget).andThen fun h _ => drive F budget turns h).after
        [.turn .needWrap] = _
      rw [wrap_simulates hf]
      exact congrArg (Outcome.after · [.turn .needWrap])
        (Outcome.mapState_andThen (h.wrap E budget) fun h _ => ih h)
    | needUnwrap =>
      show (((h.map f).unwrap F budget).andThen fun h r =>
        if r.status = .underflow ∨ r.status = .closed then ⟨h, [], .done ()⟩
        else drive F budget turns h).after [.turn .needUnwrap] = _
      rw [unwrap_simulates hf]
      refine congrArg (Outcome.after · [.turn .needUnwrap])
        (Outcome.mapState_andThen (h.unwrap E budget) fun h r => ?_)
      split
      · rfl
      · exact ih h
    | notHandshaking => rfl
    | needTask => rfl
    | finished => rfl

end Handshake

/-! ### Connections -/

namespace Connection

def map (f : σ → τ) (c : Connection σ) : Connection τ :=
  ⟨f c.engine, c.inbound, c.mailbox, c.outbound⟩

/-- The step as it looks when the connection is seen through `f`. -/
def Step.map (f : σ → τ) (s : Step σ) : Step τ :=
  ⟨s.connection.map f, s.events, s.reply⟩

variable {E : Engine σ} {F : Engine τ} {f : σ → τ}

theorem receive_simulates (hf : E.Simulates F f) (budget : Nat) (h : Handshake σ) :
    receive F budget (h.map f) = (receive E budget h).mapState (Handshake.map f) := by
  rw [receive, receive, Handshake.unwrap_simulates hf]
  exact Outcome.mapState_andThen _ fun h _ => Handshake.drive_simulates hf budget budget h

theorem read_simulates (hf : E.Simulates F f) (budget : Nat) (c : Connection σ) :
    (c.map f).read F budget = (c.read E budget).mapState (map f) := by
  rcases Nat.eq_zero_or_pos c.inbound.position with hzero | hpos
  · rw [read_empty F budget (c := c.map f) hzero, read_empty E budget hzero]
    rfl
  · have hopening : opening F (c.map f) = (opening E c).map f := by
      simp only [opening, map, Handshake.map, hf.applicationSize]
    rw [read_full F budget (c := c.map f) hpos, read_full E budget hpos, hopening,
      receive_simulates hf]
    rcases receive E budget (opening E c) with ⟨h, events, verdict⟩
    cases verdict <;> rfl

theorem extract_simulates (hf : E.Simulates F f) (budget : Nat) (c : Connection σ) :
    (c.map f).extract F budget = (c.extract E budget).mapState (map f) := by
  rcases Nat.eq_zero_or_pos c.outbound.position with hzero | hpos
  · cases hmailbox : c.mailbox.hasRemaining with
    | false =>
      rw [extract_idle F budget (c := c.map f) hzero hmailbox, extract_idle E budget hzero hmailbox]
      rfl
    | true =>
      have hrun := Transfer.run_simulates hf .wrap budget
        ⟨c.engine, c.mailbox, c.outbound.flip.clear.clear⟩
      rw [extract_wrap F budget (c := c.map f) hzero hmailbox, extract_wrap E budget hzero hmailbox]
      have hclosing := congrArg (closingWrap (c.map f)) hrun
      refine hclosing.trans ?_
      rcases Transfer.run E .wrap budget ⟨c.engine, c.mailbox, c.outbound.flip.clear.clear⟩ with
        ⟨t, events, verdict⟩
      cases verdict <;> rfl
  · rw [extract_pending F budget (c := c.map f) hpos, extract_pending E budget hpos]
    rfl

theorem step_simulates (hf : E.Simulates F f) (budget : Nat) (c : Connection σ)
    (command : Command) : (c.map f).step F budget command = (c.step E budget command).map f := by
  cases command with
  | read =>
    simp only [step, read_simulates hf]
    rfl
  | extract =>
    simp only [step, extract_simulates hf]
    rfl
  | peerCertificate =>
    simp only [step, peerCertificate, map, hf.peerCertificates]
    rfl
  | handshakeStatus =>
    simp only [step, handshakeStatus, map, hf.handshakeStatus]
    rfl
  | inject bs => rfl
  | write bs => rfl
  | shutdown => rfl
  | isInitializing => rfl
  | describe => rfl

theorem after_simulates (hf : E.Simulates F f) (budget : Nat) (c : Connection σ)
    (commands : List Command) :
    after F budget (c.map f) commands = (after E budget c commands).map f := by
  induction commands generalizing c with
  | nil => rfl
  | cons command rest ih =>
    rw [after_cons, after_cons, step_simulates hf]
    exact ih _

theorem history_simulates (hf : E.Simulates F f) (budget : Nat) (c : Connection σ)
    (commands : List Command) :
    history F budget (c.map f) commands = (history E budget c commands).map (Step.map f) := by
  induction commands generalizing c with
  | nil => rfl
  | cons command rest ih =>
    rw [history, history, List.map_cons, step_simulates hf]
    exact congrArg _ (ih _)

theorem performed_simulates (hf : E.Simulates F f) (budget : Nat) (c : Connection σ)
    (commands : List Command) :
    performed F budget (c.map f) commands =
      (performed E budget c commands).map fun p => (p.1, p.2.map f) := by
  rw [performed, performed, history_simulates hf, List.zip_map_right]
  rfl

theorem new_simulates (hf : E.Simulates F f) (s : σ) : new F (f s) = (new E s).map f := by
  simp only [new, map, hf.packetSize, hf.applicationSize]

/-- Seen through `f`, all payloads stay the same. -/
theorem payloads_map (command : Command) (past : Past σ) :
    payloads command (past.map fun p => (p.1, p.2.map f)) = payloads command past := by
  rw [payloads, payloads, List.filter_map, List.flatMap_map]
  rfl

theorem readsReturn_map (past : Past σ) :
    ReadsReturn (past.map fun p => (p.1, p.2.map f)) ↔ ReadsReturn past := by
  rw [ReadsReturn, List.forall_mem_map]
  rfl

theorem untroubled_map (past : Past σ) :
    Untroubled (past.map fun p => (p.1, p.2.map f)) ↔ Untroubled past := by
  rw [Untroubled, List.forall_mem_map]
  rfl

end Connection

end RecordLayer
