import RecordLayer.Proofs.Connection.Conservation
import RecordLayer.Proofs.Symbolic.Serving
import RecordLayer.Proofs.Tls.Ledger
import RecordLayer.Symbolic.Client

/-!
# Nothing waits between operations

While an operation goes on, plaintext and output wait in the session. When it has come back without
an error, none of either is left: the plaintext is with the host and the output in the outbound
buffer.

* `Unwrapping`, `Wrapping` and `Carries` are the balance with what the buffers hold, and
  `Unwrapping.run`, `Wrapping.run` and `Carries.receive` what runs come to;
* `Settled` is the balance between operations, and `Settled.step` what one command does to it;
* `ledger_after` and `nothing_waits` are about histories.
-/

namespace RecordLayer.Tls

open Connection

variable {ρ : Type} {P : Provider ρ} {plaintext output : ρ → Bytes} {live : ρ → Prop}

/-- The engine over metered sessions. -/
abbrev meteredEngine (P : Provider ρ) (plaintext output : ρ → Bytes) : Engine (State (Metered ρ)) :=
  engine (P.metered plaintext output)

/-! ### Transfers -/

/-- The balance of a transfer that fills its destination with plaintext. -/
structure Unwrapping (plaintext output : ρ → Bytes) (live : ρ → Prop) (read sent : Bytes)
    (t : Transfer (State (Metered ρ))) : Prop where
  wellFormed : t.WellFormed
  balanced : Balanced plaintext output live (read ++ t.destination.held) sent t.engine

/-- The balance of a transfer that fills its destination with output. -/
structure Wrapping (plaintext output : ρ → Bytes) (live : ρ → Prop) (read sent : Bytes)
    (t : Transfer (State (Metered ρ))) : Prop where
  wellFormed : t.WellFormed
  balanced : Balanced plaintext output live read (sent ++ t.destination.held) t.engine
  plaintext : plaintext t.engine.session.session = []

section

variable {read sent : Bytes} {t : Transfer (State (Metered ρ))}

theorem Unwrapping.grow (ht : Unwrapping plaintext output live read sent t) :
    Unwrapping plaintext output live read sent
      (Transfer.grow (meteredEngine P plaintext output) t) := by
  refine ⟨Transfer.wellFormed_grow _ ht.wellFormed, ?_⟩
  rw [Transfer.held_grow _ ht.wellFormed.destination]
  exact ht.balanced

theorem Wrapping.grow (ht : Wrapping plaintext output live read sent t) :
    Wrapping plaintext output live read sent
      (Transfer.grow (meteredEngine P plaintext output) t) := by
  refine ⟨Transfer.wellFormed_grow _ ht.wellFormed, ?_, ht.plaintext⟩
  rw [Transfer.held_grow _ ht.wellFormed.destination]
  exact ht.balanced

/-- All plaintext has been handed out, and output waits only if the last call opened a record. -/
theorem Unwrapping.run (h : Serves P plaintext output live)
    (ht : Unwrapping plaintext output live read sent t)
    (houtput : output t.engine.session.session = []) (budget : Nat) :
    (Transfer.run (meteredEngine P plaintext output) .unwrap budget t).Ensures
      (fun t' r => Unwrapping plaintext output live read sent t' ∧
        plaintext t'.engine.session.session = [] ∧
        (r.status ≠ .ok → output t'.engine.session.session = []))
      fun _ => True := by
  apply Transfer.run_ensures (taskless_engine _)
  apply Transfer.exchange_ensures (I := fun t => Unwrapping plaintext output live read sent t ∧
    output t.engine.session.session = []) (fun _ _ => trivial) _ _ ⟨ht, houtput⟩
  rintro t ⟨ht, houtput⟩
  have honest : Transfer.Honest (Transfer.answer (meteredEngine P plaintext output) .unwrap t)
      t.source.region t.destination.region.length :=
    honest_unwrap _ _ _ _
  apply Transfer.attempt_ensures ht.wellFormed.source ht.wellFormed.destination honest
  · intro r source destination hreport hreads hgains
    obtain ⟨hbalanced, hplaintext, houtput'⟩ := h.unwrap ht.balanced houtput (unwrap_ok hreport)
    have hnext : Unwrapping plaintext output live read sent
        ⟨(Transfer.answer (meteredEngine P plaintext output) .unwrap t).engine, source,
          destination⟩ := by
      refine ⟨⟨hreads.wellFormed ht.wellFormed.source, hgains.wellFormed⟩, ?_⟩
      rw [hgains.held, ← List.append_assoc]
      exact hbalanced
    split
    -- a record that overflows has yielded plaintext, so it has queued no output
    · next hoverflow => exact ⟨hnext.grow, houtput' (by rw [hoverflow]; nofun)⟩
    · next hother => exact ⟨hnext, hplaintext hother, houtput'⟩
  · exact fun _ _ _ => trivial

/-- All output has been flushed. If some had waited before, nothing was taken of the source. -/
theorem Wrapping.run (h : Serves P plaintext output live)
    (ht : Wrapping plaintext output live read sent t) (budget : Nat) :
    (Transfer.run (meteredEngine P plaintext output) .wrap budget t).Ensures
      (fun t' _ => Wrapping plaintext output live read sent t' ∧
        output t'.engine.session.session = [] ∧
        (output t.engine.session.session ≠ [] → t'.source.held = t.source.held))
      fun _ => True := by
  apply Transfer.run_ensures (taskless_engine _)
  apply Transfer.exchange_ensures (I := fun t' => Wrapping plaintext output live read sent t' ∧
    (output t.engine.session.session ≠ [] →
      output t'.engine.session.session ≠ [] ∧ t'.source.held = t.source.held))
    (fun _ _ => trivial) _ _ ⟨ht, fun hsome => ⟨hsome, rfl⟩⟩
  rintro t' ⟨ht', hsource⟩
  have honest : Transfer.Honest (Transfer.answer (meteredEngine P plaintext output) .wrap t')
      t'.source.region t'.destination.region.length :=
    fun r hreport =>
      ⟨(h.wrap ht'.balanced ht'.plaintext (wrap_ok hreport)).2.1, (wrap_ok hreport).produced⟩
  apply Transfer.attempt_ensures ht'.wellFormed.source ht'.wellFormed.destination honest
  · intro r source destination hreport hreads hgains
    have hok := wrap_ok hreport
    obtain ⟨hbalanced, -, hplaintext, hconsumed⟩ := h.wrap ht'.balanced ht'.plaintext hok
    have hwanted := hok.wanted_iff.trans (h.wantsWrite _ hbalanced.live)
    have hnext : Wrapping plaintext output live read sent
        ⟨(Transfer.answer (meteredEngine P plaintext output) .wrap t').engine, source,
          destination⟩ := by
      refine ⟨⟨hreads.wellFormed ht'.wellFormed.source, hgains.wellFormed⟩, ?_, hplaintext⟩
      rw [hgains.held, ← List.append_assoc]
      exact hbalanced
    -- a call that finds output does not look at its source, and every call but the last leaves some
    have hkept : output t.engine.session.session ≠ [] → source.held = t.source.held := by
      intro hsome
      obtain ⟨hsome', hheld⟩ := hsource hsome
      rw [hconsumed hsome'] at hreads
      exact hreads.held_eq.trans hheld
    split
    · next hoverflow => exact ⟨hnext.grow, fun hsome => ⟨hwanted.mp hoverflow, hkept hsome⟩⟩
    · next hother => exact ⟨hnext, not_not.mp (mt hwanted.mpr hother), hkept⟩
  · exact fun _ _ _ => trivial

end

/-! ### The driver -/

/-- The balance of an engine among its buffers. -/
structure Carries (plaintext output : ρ → Bytes) (live : ρ → Prop) (read sent : Bytes)
    (h : Handshake (State (Metered ρ))) : Prop where
  wellFormed : h.WellFormed
  balanced : Balanced plaintext output live (read ++ h.scratch.held) (sent ++ h.outbound.held)
    h.engine

section

variable {read sent : Bytes} {h : Handshake (State (Metered ρ))}

theorem Carries.unwrap (hP : Serves P plaintext output live)
    (hc : Carries plaintext output live read sent h) (houtput : output h.engine.session.session = [])
    (budget : Nat) :
    (h.unwrap (meteredEngine P plaintext output) budget).Ensures
      (fun h' r => Carries plaintext output live read sent h' ∧
        plaintext h'.engine.session.session = [] ∧
        (r.status ≠ .ok → output h'.engine.session.session = []))
      fun _ => True := by
  have ht : Unwrapping plaintext output live read (sent ++ h.outbound.held)
      ⟨h.engine, h.inbound, h.scratch⟩ :=
    ⟨⟨hc.wellFormed.inbound, hc.wellFormed.scratch⟩, hc.balanced⟩
  apply Outcome.Ensures.mapState
  apply (ht.run hP houtput budget).imp _ fun _ htrue => htrue
  rintro t r ⟨ht', hplaintext, houtput'⟩
  exact ⟨⟨⟨ht'.wellFormed.source, ht'.wellFormed.destination, hc.wellFormed.outbound⟩,
    ht'.balanced⟩, hplaintext, houtput'⟩

/-- Output that waits is put behind what is in the outbound buffer, and the scratch buffer keeps its
plaintext. -/
theorem Carries.wrap (hP : Serves P plaintext output live)
    (hc : Carries plaintext output live read sent h)
    (hplaintext : plaintext h.engine.session.session = [])
    (houtput : output h.engine.session.session ≠ []) (budget : Nat) :
    (h.wrap (meteredEngine P plaintext output) budget).Ensures
      (fun h' _ => Carries plaintext output live read sent h' ∧
        plaintext h'.engine.session.session = [])
      fun _ => True := by
  have ht : Wrapping plaintext output live (read ++ h.scratch.held) sent
      ⟨h.engine, h.scratch, h.outbound⟩ :=
    ⟨⟨hc.wellFormed.scratch, hc.wellFormed.outbound⟩, hc.balanced, hplaintext⟩
  apply Outcome.Ensures.mapState
  apply (ht.run hP budget).imp _ fun _ htrue => htrue
  rintro t r ⟨ht', -, hkept⟩
  -- the scratch buffer was the source, and it may hold plaintext
  refine ⟨⟨⟨hc.wellFormed.inbound, ht'.wellFormed.source, ht'.wellFormed.destination⟩, ?_⟩,
    ht'.plaintext⟩
  show Balanced plaintext output live (read ++ t.source.held) (sent ++ t.destination.held) t.engine
  rw [hkept houtput]
  exact ht'.balanced

theorem Carries.needWrap_iff (hP : Serves P plaintext output live)
    (hc : Carries plaintext output live read sent h) :
    (meteredEngine P plaintext output).handshakeStatus h.engine = .needWrap ↔
      output h.engine.session.session ≠ [] :=
  (handshakeStatus_eq_needWrap _ _).trans (hP.wantsWrite _ hc.balanced.live)

/-- The driver ends in one of three ways: it finds that nothing is needed, it lacks input, or the
peer has closed. No output waits after any of them. -/
theorem Carries.drive (hP : Serves P plaintext output live)
    (hc : Carries plaintext output live read sent h)
    (hplaintext : plaintext h.engine.session.session = []) (budget turns : Nat) :
    (h.drive (meteredEngine P plaintext output) budget turns).Ensures
      (fun h' _ => Carries plaintext output live read sent h' ∧
        plaintext h'.engine.session.session = [] ∧ output h'.engine.session.session = [])
      fun _ => True := by
  apply Handshake.drive_ensures (I := fun h => Carries plaintext output live read sent h ∧
    plaintext h.engine.session.session = []) (fun _ _ => trivial) _ _ _ turns ⟨hc, hplaintext⟩
  · rintro h ⟨hc, hplaintext⟩ hseen
    exact hc.wrap hP hplaintext ((hc.needWrap_iff hP).mp hseen) budget
  · rintro h ⟨hc, -⟩ hseen
    -- an engine with output would have asked for a wrap
    have houtput : output h.engine.session.session = [] := by
      by_contra houtput
      rw [(hc.needWrap_iff hP).mpr houtput] at hseen
      cases hseen
    apply (hc.unwrap hP houtput budget).imp _ fun _ htrue => htrue
    rintro h' r ⟨hc', hplaintext', hquiet⟩
    split
    · next hstop =>
      refine ⟨hc', hplaintext', hquiet ?_⟩
      rcases hstop with hstatus | hstatus <;> rw [hstatus] <;> nofun
    · exact ⟨hc', hplaintext'⟩
  · rintro h ⟨hc, hplaintext⟩ hwrap -
    exact ⟨hc, hplaintext, not_not.mp fun houtput => hwrap ((hc.needWrap_iff hP).mpr houtput)⟩

theorem Carries.receive (hP : Serves P plaintext output live)
    (hc : Carries plaintext output live read sent h) (houtput : output h.engine.session.session = [])
    (budget : Nat) :
    (Connection.receive (meteredEngine P plaintext output) budget h).Ensures
      (fun h' _ => Carries plaintext output live read sent h' ∧
        plaintext h'.engine.session.session = [] ∧ output h'.engine.session.session = [])
      fun _ => True := by
  apply (hc.unwrap hP houtput budget).andThen
  rintro h' r ⟨hc', hplaintext, -⟩
  exact hc'.drive hP hplaintext budget budget

end

/-! ### Between operations -/

/-- The books balance, and nothing waits in the session. -/
structure Settled (plaintext output : ρ → Bytes) (live : ρ → Prop) (got sent : Bytes)
    (c : Connection (State (Metered ρ))) : Prop where
  wellFormed : c.WellFormed
  balanced : Balanced plaintext output live got (sent ++ c.outbound.held) c.engine
  plaintext : plaintext c.engine.session.session = []
  output : output c.engine.session.session = []

section

variable {got sent : Bytes} {c : Connection (State (Metered ρ))} {payload : Option Bytes}

/-- A read starts with an empty scratch buffer. -/
theorem Settled.opening (hs : Settled plaintext output live got sent c) :
    Carries plaintext output live got sent
      (Connection.opening (meteredEngine P plaintext output) c) := by
  refine ⟨wellFormed_opening _ hs.wellFormed, ?_⟩
  show Balanced plaintext output live (got ++ (Buffer.withCapacity _).held) _ c.engine
  rw [Buffer.held_withCapacity, List.append_nil]
  exact hs.balanced

/-- What a read has decrypted, it returns. -/
theorem Settled.read (hP : Serves P plaintext output live)
    (hs : Settled plaintext output live got sent c) (budget : Nat)
    (hdone : (c.read (meteredEngine P plaintext output) budget).verdict = .done payload) :
    Settled plaintext output live
      (got ++ given (c.read (meteredEngine P plaintext output) budget).verdict) sent
      (c.read (meteredEngine P plaintext output) budget).state := by
  have hwf : (c.read (meteredEngine P plaintext output) budget).state.WellFormed :=
    wellFormed_step _ budget hs.wellFormed .read
  rcases Nat.eq_zero_or_pos c.inbound.position with hzero | hpos
  · rw [read_empty _ budget hzero] at hwf ⊢
    rw [given_done, Option.getD_none, List.append_nil]
    exact ⟨hwf, hs.balanced, hs.plaintext, hs.output⟩
  · rw [read_full _ budget hpos] at hdone hwf ⊢
    obtain ⟨hreceived, hpayload, -⟩ := verdict_closing_done hdone
    obtain ⟨hc, hplaintext, houtput⟩ := (hs.opening.receive hP hs.output budget).of_done hreceived
    refine ⟨hwf, ?_, ?_, ?_⟩ <;> rw [engine_closing]
    · rw [hdone, given_done, hpayload, Buffer.drain_getD hc.wellFormed.scratch, outbound_closing]
      exact hc.balanced
    · exact hplaintext
    · exact houtput

/-- What an extraction returns comes from the outbound buffer, or else has just been queued. -/
theorem Settled.extract (hP : Serves P plaintext output live)
    (hs : Settled plaintext output live got sent c) (budget : Nat)
    (hdone : (c.extract (meteredEngine P plaintext output) budget).verdict = .done payload) :
    Settled plaintext output live got
      (sent ++ given (c.extract (meteredEngine P plaintext output) budget).verdict)
      (c.extract (meteredEngine P plaintext output) budget).state := by
  have hwf : (c.extract (meteredEngine P plaintext output) budget).state.WellFormed :=
    wellFormed_step _ budget hs.wellFormed .extract
  have hbalanced := hs.balanced
  rcases Nat.eq_zero_or_pos c.outbound.position with hzero | hpos
  · rw [Buffer.held_eq_nil hzero, List.append_nil] at hbalanced
    cases hmailbox : c.mailbox.hasRemaining with
    | false =>
      rw [extract_idle _ budget hzero hmailbox] at hwf ⊢
      refine ⟨hwf, ?_, hs.plaintext, hs.output⟩
      rw [given_done, Option.getD_none, Buffer.held_clear, List.append_nil, List.append_nil]
      exact hbalanced
    | true =>
      rw [extract_wrap _ budget hzero hmailbox] at hdone hwf ⊢
      have ht : Wrapping plaintext output live got sent
          ⟨c.engine, c.mailbox, c.outbound.flip.clear.clear⟩ := by
        refine ⟨⟨hs.wellFormed.mailbox, Buffer.wellFormed_clear _⟩, ?_, hs.plaintext⟩
        rw [Buffer.held_clear, List.append_nil]
        exact hbalanced
      obtain ⟨r, hrun⟩ := verdict_closingWrap_done hdone
      obtain ⟨ht', houtput, -⟩ := (ht.run hP budget).of_done hrun
      refine ⟨hwf, ?_, ?_, ?_⟩ <;> rw [engine_closingWrap]
      · rw [List.append_assoc, given_closingWrap ht'.wellFormed.destination]
        exact ht'.balanced
      · exact ht'.plaintext
      · exact houtput
  · rw [extract_pending _ budget hpos] at hwf ⊢
    refine ⟨hwf, ?_, hs.plaintext, hs.output⟩
    rw [given_done, Option.getD_some, Buffer.held_clear, List.append_nil]
    exact hbalanced

variable {past : Past (State (Metered ρ))}

theorem Settled.step (hP : Serves P plaintext output live)
    (hs : Settled plaintext output live (payloads .read past) (payloads .extract past) c)
    (budget : Nat) (command : Command)
    (hok : (c.step (meteredEngine P plaintext output) budget command).succeeded = true) :
    Settled plaintext output live
      (payloads .read
        (past ++ [(command, c.step (meteredEngine P plaintext output) budget command)]))
      (payloads .extract
        (past ++ [(command, c.step (meteredEngine P plaintext output) budget command)]))
      (c.step (meteredEngine P plaintext output) budget command).connection := by
  obtain rfl | hread := eq_or_ne command .read
  · obtain ⟨payload, hdone⟩ := done_of_succeeded hok
    rw [payloads_concat_self, payloads_concat_ne _ _ _ (by decide), Connection.step,
      payload_ofOutcome]
    exact hs.read hP budget hdone
  obtain rfl | hextract := eq_or_ne command .extract
  · obtain ⟨payload, hdone⟩ := done_of_succeeded hok
    rw [payloads_concat_self, payloads_concat_ne _ _ _ (by decide), Connection.step,
      payload_ofOutcome]
    exact hs.extract hP budget hdone
  have hengine := engine_step_idle (meteredEngine P plaintext output) budget c hread hextract
  have houtbound := outbound_step_idle (meteredEngine P plaintext output) budget c hread hextract
  rw [payloads_concat_ne _ _ _ hread, payloads_concat_ne _ _ _ hextract]
  refine ⟨wellFormed_step _ budget hs.wellFormed command, ?_, ?_, ?_⟩ <;> rw [hengine]
  · rw [houtbound]
    exact hs.balanced
  · exact hs.plaintext
  · exact hs.output

end

/-! ### Histories -/

/-- A connection over a fresh session. -/
def fresh (P : Provider ρ) (start : ρ) : Connection (State ρ) :=
  new (engine P) ⟨start, 0, false⟩

/-- A connection over a fresh session that keeps its ledger. -/
def freshMetered (P : Provider ρ) (plaintext output : ρ → Bytes) (start : ρ) :
    Connection (State (Metered ρ)) :=
  fresh (P.metered plaintext output) ⟨start, {}⟩

/-- The ledger after a history. -/
def ledger (P : Provider ρ) (plaintext output : ρ → Bytes) (start : ρ) (budget : Nat)
    (commands : List Command) : Metered ρ :=
  (after (meteredEngine P plaintext output) budget (freshMetered P plaintext output start)
    commands).engine.session

section

variable {start : ρ} {commands : List Command}

/-- By induction on the history. -/
theorem settled_after (hP : Serves P plaintext output live) (hstart : live start)
    (hplaintext : plaintext start = []) (houtput : output start = []) (budget : Nat)
    (hok : Untroubled (performed (meteredEngine P plaintext output) budget
      (freshMetered P plaintext output start) commands)) :
    let past := performed (meteredEngine P plaintext output) budget
      (freshMetered P plaintext output start) commands
    Settled plaintext output live (payloads .read past) (payloads .extract past)
      (after (meteredEngine P plaintext output) budget (freshMetered P plaintext output start)
        commands) := by
  refine performed_invariant (meteredEngine P plaintext output) budget
    (freshMetered P plaintext output start)
    (motive := fun _ past c => Untroubled past →
      Settled plaintext output live (payloads .read past) (payloads .extract past) c)
    ?_ ?_ commands hok
  · intro _
    refine ⟨wellFormed_new _ _, ⟨hstart, ?_, ?_, ?_⟩, hplaintext, houtput⟩
    · exact (congrArg List.length hplaintext).symm
    · exact hplaintext.symm
    · show [] = [] ++ (Buffer.withCapacity Record.maxLength).held ++ output start
      rw [Buffer.held_withCapacity, houtput]
      rfl
  · intro commands past c command ih hok
    rw [untroubled_append, Untroubled, Untroubled, List.forall_mem_singleton] at hok
    exact (ih hok.1).step hP budget command hok.2

/-- A history without failures ends with an idle session, and the ledger says that what was decrypted
was read and that what was queued was sent or is in the outbound buffer. -/
theorem ledger_after (hP : Serves P plaintext output live) (hstart : live start)
    (hplaintext : plaintext start = []) (houtput : output start = []) (budget : Nat)
    (hok : Untroubled (performed (engine P) budget (fresh P start) commands)) :
    let past := performed (engine P) budget (fresh P start) commands
    let c := after (engine P) budget (fresh P start) commands
    let m := ledger P plaintext output start budget commands
    (live c.engine.session ∧ plaintext c.engine.session = [] ∧ output c.engine.session = []) ∧
      c.engine.pending = 0 ∧ m.session = c.engine.session ∧
      m.notes.decrypted = payloads .read past ∧
      m.notes.queued = payloads .extract past ++ c.outbound.held := by
  intro past c m
  have hsimulates := plain_simulates P (.ledger plaintext output)
  have hfresh : fresh P start = (freshMetered P plaintext output start).map State.plain := rfl
  have hpast : past = _ := (congrArg (performed (engine P) budget · commands) hfresh).trans
    (performed_simulates hsimulates budget _ commands)
  have hc : c = _ := (congrArg (after (engine P) budget · commands) hfresh).trans
    (after_simulates hsimulates budget _ commands)
  have hmetered : Untroubled past := hok
  rw [hpast, untroubled_map] at hmetered
  have hsettled := settled_after hP hstart hplaintext houtput budget hmetered
  have hpending := hsettled.balanced.pending
  have hdecrypted := hsettled.balanced.decrypted
  have hqueued := hsettled.balanced.queued
  rw [hsettled.plaintext] at hpending
  rw [hsettled.plaintext, List.append_nil] at hdecrypted
  rw [hsettled.output, List.append_nil] at hqueued
  rw [hpast, hc, payloads_map, payloads_map]
  exact ⟨⟨hsettled.balanced.live, hsettled.plaintext, hsettled.output⟩, hpending, rfl, hdecrypted,
    hqueued⟩

/-- After operations that have all succeeded, no decrypted byte waits in the session and it has
nothing to write. All output it has ever queued was extracted or is in the outbound buffer, and what
a command has decrypted is what it has read. -/
theorem nothing_waits (hP : Serves P plaintext output live) (hstart : live start)
    (hplaintext : plaintext start = []) (houtput : output start = []) (budget : Nat)
    (hok : Untroubled (performed (engine P) budget (fresh P start) commands)) :
    let past := performed (engine P) budget (fresh P start) commands
    let c := after (engine P) budget (fresh P start) commands
    let m := ledger P plaintext output start budget
    (c.engine.pending = 0 ∧ plaintext c.engine.session = []) ∧
      (P.wantsWrite c.engine.session = false ∧
        (engine P).handshakeStatus c.engine ≠ .needWrap) ∧
      ((m commands).session = c.engine.session ∧
        (m commands).notes.queued = payloads .extract past ++ c.outbound.held ∧
        (m commands).notes.decrypted = payloads .read past) ∧
      ∀ earlier command later, commands = earlier ++ command :: later →
        (m (earlier ++ [command])).notes.decrypted = (m earlier).notes.decrypted ++
          payloads .read [(command,
            (after (engine P) budget (fresh P start) earlier).step (engine P) budget command)] := by
  intro past c m
  obtain ⟨⟨hlive, hunread, hunsent⟩, hpending, hsession, hdecrypted, hqueued⟩ :=
    ledger_after hP hstart hplaintext houtput budget hok
  have hunwanted : P.wantsWrite c.engine.session ≠ true :=
    mt (hP.wantsWrite _ hlive).mp (not_not.mpr hunsent)
  refine ⟨⟨hpending, hunread⟩, ⟨Bool.eq_false_iff.mpr hunwanted, ?_⟩,
    ⟨hsession, hqueued, hdecrypted⟩, ?_⟩
  · exact mt (handshakeStatus_eq_needWrap _ _).mp hunwanted
  · rintro earlier command later rfl
    -- both fronts of the history are without failures as well
    rw [List.append_cons, performed_append, untroubled_append] at hok
    have hbefore := hok.1
    rw [performed_concat, untroubled_append] at hbefore
    obtain ⟨-, -, -, hearlier, -⟩ := ledger_after hP hstart hplaintext houtput budget hbefore.1
    obtain ⟨-, -, -, hlater, -⟩ := ledger_after hP hstart hplaintext houtput budget hok.1
    show (ledger P plaintext output start budget (earlier ++ [command])).notes.decrypted =
      (ledger P plaintext output start budget earlier).notes.decrypted ++ _
    rw [hlater, hearlier, performed_concat, payloads_append]

end

/-! ### A meeting -/

/-- A certificate, which is also its key. -/
def meetingIdentity : Bytes :=
  (Symbolic.Certificate.selfSigned "a" "localhost" .p256).der

def meetingServer : Symbolic.Server :=
  .fresh 0 ⟨CipherSuite.standard, [.tls13], [.x25519], .none, [], [meetingIdentity], meetingIdentity⟩

def meetingClient : Symbolic.Client :=
  .start ⟨[meetingIdentity], none, [.tls13], CipherSuite.standard, "localhost"⟩ 0

/-- What the server's host does while the two come through their handshake and exchange a record
each. -/
def meeting : List Command :=
  let greeted : List Command := [.inject meetingClient.outgoing, .read, .extract]
  let flight := payloads .extract (performed (engine Symbolic.Server.provider) 9
    (fresh Symbolic.Server.provider meetingServer) greeted)
  let answered := (Symbolic.Client.deliver meetingClient.flush.1 flight).1
  greeted ++ [.inject (answered.write [104, 105]).1.outgoing, .read, .read, .write [111, 107],
    .extract, .extract]

theorem nothing_waits_meeting :
    let P := Symbolic.Server.provider
    let past := performed (engine P) 9 (fresh P meetingServer) meeting
    let c := after (engine P) 9 (fresh P meetingServer) meeting
    let m := ledger P Symbolic.Party.plaintext Symbolic.Party.outgoing meetingServer 9
    (Serves P Symbolic.Party.plaintext Symbolic.Party.outgoing Symbolic.Server.Standing ∧
        Symbolic.Server.Standing meetingServer ∧ meetingServer.plaintext = [] ∧
        meetingServer.outgoing = [] ∧ Untroubled past) ∧
      (c.engine.pending = 0 ∧ P.wantsWrite c.engine.session = false) ∧
      (m meeting).notes.decrypted = [104, 105] ∧
      (m meeting).notes.queued = payloads .extract past ++ c.outbound.held := by
  have hstanding : Symbolic.Server.Standing meetingServer := Symbolic.Server.standing_fresh _ _
  have hpast : Untroubled (performed (engine Symbolic.Server.provider) 9
      (fresh Symbolic.Server.provider meetingServer) meeting) ∧
        payloads .read (performed (engine Symbolic.Server.provider) 9
          (fresh Symbolic.Server.provider meetingServer) meeting) = [104, 105] := by
    decide +kernel
  obtain ⟨⟨hpending, -⟩, ⟨hunwanted, -⟩, ⟨-, hqueued, hdecrypted⟩, -⟩ :=
    nothing_waits Symbolic.Server.serves hstanding rfl rfl 9 hpast.1
  exact ⟨⟨Symbolic.Server.serves, hstanding, rfl, rfl, hpast.1⟩, ⟨hpending, hunwanted⟩,
    hdecrypted.trans hpast.2, hqueued⟩

end RecordLayer.Tls
