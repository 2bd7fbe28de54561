import RecordLayer.Proofs.Connection.Conservation
import RecordLayer.Proofs.Tls.Absorb

/-!
# Reading from a session

A read makes one unwrap and then follows the handshake. Whatever it does with its buffers, the
engine keeps in step with absorbing the records one after the other.

* `Follows` is the invariant of a read, while the engine is among its buffers;
* `Between` is the invariant of a connection to which nothing is written, between the commands;
* `Between.step` and `Between.fedInOrder_step` are about one command, `between_after` about
  histories.
-/

namespace RecordLayer.Tls

variable {ρ : Type} {P : Provider ρ} {V : View ρ} {live : ρ → Prop} {start : ρ}

/-- The engine over watched sessions. -/
abbrev watchedEngine (P : Provider ρ) (V : View ρ) : Engine (State (Watched ρ)) :=
  engine (P.watched V.output)

/-- What holds of an engine among its buffers, after `read` was read and `sent` was sent. -/
structure Follows (P : Provider ρ) (V : View ρ) (live : ρ → Prop) (start : ρ)
    (stream read sent : Bytes) (h : Handshake (State (Watched ρ))) : Prop where
  wellFormed : h.WellFormed
  tracks : Tracks P V live start h.engine (read ++ h.scratch.held) (sent ++ h.outbound.held)
  framed : ∀ record ∈ h.engine.session.notes.fed, Record.IsRecord record
  stream : h.engine.session.notes.fed.flatten ++ h.inbound.region = stream

/-- The records that were fed are the first ones of the stream. -/
def FedInOrder (stream : Bytes) (s : State (Watched ρ)) : Prop :=
  s.session.notes.fed <+: Record.frames stream

section

variable {stream read sent : Bytes} {h : Handshake (State (Watched ρ))}

theorem Follows.fedInOrder (hf : Follows P V live start stream read sent h) :
    FedInOrder stream h.engine :=
  Record.prefix_frames hf.framed ⟨_, hf.stream⟩

theorem framed_feeds {s s' : State (Watched ρ)} {source : Bytes} {records : List Bytes}
    (hs : ∀ record ∈ s.session.notes.fed, Record.IsRecord record)
    (hfeeds : Feeds s source records s') :
    ∀ record ∈ s'.session.notes.fed, Record.IsRecord record := by
  intro record hrecord
  rw [hfeeds.fed] at hrecord
  rcases List.mem_append.mp hrecord with hrecord | hrecord
  · exact hs record hrecord
  · exact hfeeds.framed record hrecord

/-- Records from the front of what is left are the next ones of the stream. -/
theorem Follows.fedInOrder_feeds (hf : Follows P V live start stream read sent h)
    {s' : State (Watched ρ)} {records : List Bytes}
    (hfeeds : Feeds h.engine h.inbound.region records s') : FedInOrder stream s' := by
  apply Record.prefix_frames (framed_feeds hf.framed hfeeds)
  obtain ⟨rest, hrest⟩ := hfeeds.front
  refine ⟨rest, ?_⟩
  rw [hfeeds.fed, List.flatten_append, List.append_assoc, hrest, hf.stream]

/-- The buffers follow what an unwrap did. -/
theorem Follows.unwrapped (hf : Follows P V live start stream read sent h)
    {a : Answer (State (Watched ρ))} {r : Report}
    (ha : Unwrapped P V live start h.engine h.inbound.region (read ++ h.scratch.held)
      (sent ++ h.outbound.held) a r)
    {inbound scratch : Buffer} (hreads : h.inbound.Reads (h.inbound.region.take r.consumed) inbound)
    (hgains : h.scratch.Gains a.written scratch) :
    Follows P V live start stream read sent { h with engine := a.engine, inbound, scratch } := by
  obtain ⟨records, hfeeds, htaken⟩ := ha.fed
  refine ⟨⟨hreads.wellFormed hf.wellFormed.inbound, hgains.wellFormed, hf.wellFormed.outbound⟩, ?_,
    framed_feeds hf.framed hfeeds, ?_⟩
  · rw [hgains.held, ← List.append_assoc]
    exact ha.tracks
  · have hstream := hf.stream
    rw [hreads.region, ← htaken, ← List.append_assoc, ← List.flatten_append,
      ← hfeeds.fed] at hstream
    exact hstream

/-- The buffers follow what a wrap did that consumed nothing. -/
theorem Follows.wrapped (hf : Follows P V live start stream read sent h)
    {s' : State (Watched ρ)} {written : Bytes}
    (hs' : Tracks P V live start s' (read ++ h.scratch.held) (sent ++ h.outbound.held ++ written))
    (hfed : s'.session.notes.fed = h.engine.session.notes.fed) {scratch outbound : Buffer}
    (hreads : h.scratch.Reads [] scratch) (hgains : h.outbound.Gains written outbound) :
    Follows P V live start stream read sent { h with engine := s', scratch, outbound } := by
  refine ⟨⟨hf.wellFormed.inbound, hreads.wellFormed hf.wellFormed.scratch, hgains.wellFormed⟩, ?_,
    ?_, ?_⟩
  · rw [hreads.held_eq, hgains.held, ← List.append_assoc]
    exact hs'
  · rw [hfed]
    exact hf.framed
  · rw [hfed]
    exact hf.stream

/-- Growing a destination changes nothing that counts. -/
theorem Follows.grown (hf : Follows P V live start stream read sent h) {scratch outbound : Buffer}
    (hscratch : h.scratch.Gains [] scratch) (houtbound : h.outbound.Gains [] outbound) :
    Follows P V live start stream read sent { h with scratch, outbound } := by
  refine ⟨⟨hf.wellFormed.inbound, hscratch.wellFormed, houtbound.wellFormed⟩, ?_, hf.framed,
    hf.stream⟩
  rw [hscratch.held, houtbound.held, List.append_nil, List.append_nil]
  exact hf.tracks

theorem Follows.unwrap (hV : V.Lawful P live) (hf : Follows P V live start stream read sent h)
    (houtput : V.output h.engine.session.session = []) (budget : Nat) :
    (h.unwrap (watchedEngine P V) budget).Ensures
      (fun h' r => Follows P V live start stream read sent h' ∧
        V.plaintext h'.engine.session.session = [] ∧
        (r.status = .underflow ∨ r.status = .closed → V.output h'.engine.session.session = []))
      fun h' => FedInOrder stream h'.engine := by
  apply Outcome.Ensures.mapState
  apply Transfer.run_ensures (taskless_engine _)
  apply Transfer.exchange_ensures (I := fun t =>
    Follows P V live start stream read sent
      { h with engine := t.engine, inbound := t.source, scratch := t.destination } ∧
    V.output t.engine.session.session = [])
  · rintro t ⟨hf, -⟩
    exact hf.fedInOrder
  · rintro t ⟨hf, houtput⟩
    have honest : Transfer.Honest (Transfer.answer (watchedEngine P V) .unwrap t)
        t.source.region t.destination.region.length := honest_unwrap _ _ _ _
    apply Transfer.attempt_ensures hf.wellFormed.inbound hf.wellFormed.scratch honest
    · intro r source destination hreport hreads hgains
      have hu := hf.tracks.unwrapOk hV houtput (unwrap_ok hreport)
      have hnext := hf.unwrapped hu hreads hgains
      split
      · next hoverflow =>
        have hplaintext := hu.overflow.mp hoverflow
        exact ⟨hnext.grown (.of_resize hgains.wellFormed (Nat.le_add_left _ _))
          (.refl hf.wellFormed.outbound), hnext.tracks.quiet (.inl hplaintext)⟩
      · next hother =>
        exact ⟨hnext, not_not.mp (mt hu.overflow.mpr hother), hu.stopped⟩
    · intro e destination hreport
      obtain ⟨records, hfeeds⟩ := hf.tracks.unwrapFailed (unwrap_failed hreport)
      exact hf.fedInOrder_feeds hfeeds
  · exact ⟨hf, houtput⟩

theorem Follows.wrap (hV : V.Lawful P live) (hf : Follows P V live start stream read sent h)
    (hplaintext : V.plaintext h.engine.session.session = [])
    (houtput : V.output h.engine.session.session ≠ []) (budget : Nat) :
    (h.wrap (watchedEngine P V) budget).Ensures
      (fun h' _ => Follows P V live start stream read sent h' ∧
        V.plaintext h'.engine.session.session = [])
      fun h' => FedInOrder stream h'.engine := by
  apply Outcome.Ensures.mapState
  apply Transfer.run_ensures (taskless_engine _)
  apply Transfer.exchange_ensures (I := fun t =>
    Follows P V live start stream read sent
      { h with engine := t.engine, scratch := t.source, outbound := t.destination } ∧
    V.plaintext t.engine.session.session = [] ∧ V.output t.engine.session.session ≠ [])
  · rintro t ⟨hf, -⟩
    exact hf.fedInOrder
  · rintro t ⟨hf, hplaintext, houtput⟩
    have hw : ∀ {r}, (Transfer.answer (watchedEngine P V) .wrap t).report = .ok r →
        Wrapped P V live start t.engine (read ++ t.source.held) (sent ++ t.destination.held)
          (Transfer.answer (watchedEngine P V) .wrap t) r :=
      fun hreport => hf.tracks.wrapOk hV houtput (wrap_ok hreport)
    have honest : Transfer.Honest (Transfer.answer (watchedEngine P V) .wrap t)
        t.source.region t.destination.region.length :=
      fun r hreport => ⟨(hw hreport).consumed ▸ Nat.zero_le _, (wrap_ok hreport).produced⟩
    have hfed := fed_wrap P V.output t.engine t.source.region t.destination.region.length
    apply Transfer.attempt_ensures hf.wellFormed.scratch hf.wellFormed.outbound honest
    · intro r source destination hreport hreads hgains
      rw [(hw hreport).consumed] at hreads
      have hnext := hf.wrapped (hw hreport).tracks hfed hreads hgains
      have hplaintext' := (hw hreport).plaintext.trans hplaintext
      split
      · next hoverflow =>
        exact ⟨hnext.grown (.refl hnext.wellFormed.scratch)
          (.of_resize hgains.wellFormed (Nat.le_add_left _ _)), hplaintext',
          (hw hreport).overflow hoverflow⟩
      · exact ⟨hnext, hplaintext'⟩
    · intro e destination _
      exact hf.fedInOrder_feeds (feeds_none hfed)
  · exact ⟨hf, hplaintext, houtput⟩

/-- The engine wants to wrap as long as output waits. -/
theorem Follows.needWrap_iff (hV : V.Lawful P live)
    (hf : Follows P V live start stream read sent h) :
    (watchedEngine P V).handshakeStatus h.engine = .needWrap ↔
      V.output h.engine.session.session ≠ [] :=
  (handshakeStatus_eq_needWrap _ _).trans (hV.wantsWrite _ hf.tracks.live)

theorem Follows.drive (hV : V.Lawful P live) (hf : Follows P V live start stream read sent h)
    (hplaintext : V.plaintext h.engine.session.session = []) (budget turns : Nat) :
    (h.drive (watchedEngine P V) budget turns).Ensures
      (fun h' _ => Follows P V live start stream read sent h' ∧
        V.plaintext h'.engine.session.session = [] ∧ V.output h'.engine.session.session = [])
      fun h' => FedInOrder stream h'.engine := by
  apply Handshake.drive_ensures (I := fun h => Follows P V live start stream read sent h ∧
    V.plaintext h.engine.session.session = [])
  · rintro h ⟨hf, -⟩
    exact hf.fedInOrder
  · rintro h ⟨hf, hplaintext⟩ hseen
    exact hf.wrap hV hplaintext ((hf.needWrap_iff hV).mp hseen) budget
  · rintro h ⟨hf, -⟩ hseen
    have houtput : V.output h.engine.session.session = [] := by
      by_contra houtput
      rw [(hf.needWrap_iff hV).mpr houtput] at hseen
      cases hseen
    apply (hf.unwrap hV houtput budget).imp _ fun _ hfed => hfed
    rintro h' r ⟨hf', hplaintext', hstopped⟩
    split
    · next hstop => exact ⟨hf', hplaintext', hstopped hstop⟩
    · exact ⟨hf', hplaintext'⟩
  · rintro h ⟨hf, hplaintext⟩ hwrap -
    exact ⟨hf, hplaintext, not_not.mp fun houtput => hwrap ((hf.needWrap_iff hV).mpr houtput)⟩
  · exact ⟨hf, hplaintext⟩

theorem Follows.receive (hV : V.Lawful P live) (hf : Follows P V live start stream read sent h)
    (houtput : V.output h.engine.session.session = []) (budget : Nat) :
    (Connection.receive (watchedEngine P V) budget h).Ensures
      (fun h' _ => Follows P V live start stream read sent h' ∧
        V.plaintext h'.engine.session.session = [] ∧ V.output h'.engine.session.session = [])
      fun h' => FedInOrder stream h'.engine := by
  apply (hf.unwrap hV houtput budget).andThen
  rintro h' r ⟨hf', hplaintext, -⟩
  exact hf'.drive hV hplaintext budget budget

end

/-! ### Between the commands -/

open Connection

/-- What holds of a connection between two commands, none of which was a write. -/
structure Between (P : Provider ρ) (V : View ρ) (live : ρ → Prop) (start : ρ)
    (commands : List Command) (past : Past (State (Watched ρ)))
    (c : Connection (State (Watched ρ))) : Prop where
  wellFormed : c.WellFormed
  mailbox : c.mailbox.hasRemaining = false
  plaintext : V.plaintext c.engine.session.session = []
  output : V.output c.engine.session.session = []
  tracks : Tracks P V live start c.engine (payloads .read past)
    (payloads .extract past ++ c.outbound.held)
  framed : ∀ record ∈ c.engine.session.notes.fed, Record.IsRecord record
  stream : c.engine.session.notes.fed.flatten ++ c.inbound.held = injected commands

section

variable {commands : List Command} {past : Past (State (Watched ρ))}
  {c : Connection (State (Watched ρ))}

theorem Between.opening (hb : Between P V live start commands past c) :
    Follows P V live start (injected commands) (payloads .read past) (payloads .extract past)
      (opening (watchedEngine P V) c) := by
  refine ⟨wellFormed_opening _ hb.wellFormed, ?_, hb.framed, ?_⟩
  · show Tracks P V live start c.engine (_ ++ (Buffer.withCapacity _).held) _
    rw [Buffer.held_withCapacity, List.append_nil]
    exact hb.tracks
  · show c.engine.session.notes.fed.flatten ++ (Buffer.ofBytes c.inbound.held).region = _
    rw [Buffer.region_ofBytes]
    exact hb.stream

theorem Between.fedInOrder (hb : Between P V live start commands past c) :
    FedInOrder (injected commands) c.engine :=
  hb.opening.fedInOrder

/-- A read that returns goes from one state between commands to the next. -/
theorem Between.read (hV : V.Lawful P live) (hb : Between P V live start commands past c)
    (budget : Nat) (hreturned : (c.step (watchedEngine P V) budget .read).returned = true) :
    Between P V live start (commands ++ [.read])
      (past ++ [(.read, c.step (watchedEngine P V) budget .read)])
      (c.step (watchedEngine P V) budget .read).connection := by
  obtain ⟨payload, hdone⟩ := done_of_returned hreturned
  have hwf := wellFormed_step (watchedEngine P V) budget hb.wellFormed .read
  have hpayload : (c.step (watchedEngine P V) budget .read).payload = payload.getD [] := by
    rw [step, payload_ofOutcome, hdone]
    cases payload <;> rfl
  have hreads : payloads .read (past ++ [(.read, c.step (watchedEngine P V) budget .read)]) =
      payloads .read past ++ payload.getD [] := by
    rw [payloads_concat_self, hpayload]
  have hextracts : payloads .extract (past ++ [(.read, c.step (watchedEngine P V) budget .read)]) =
      payloads .extract past := payloads_concat_ne _ _ _ (by decide)
  have hinjected : injected (commands ++ [.read]) = injected commands :=
    injected_concat_other .read commands (by simp)
  rcases Nat.eq_zero_or_pos c.inbound.position with hzero | hpos
  · have hread := read_empty (watchedEngine P V) budget hzero
    have hnone : payload = none := by
      rw [hread] at hdone
      cases hdone
      rfl
    have hconnection : (c.step (watchedEngine P V) budget .read).connection =
        { c with inbound := c.inbound.flip.clear } := by
      rw [step, hread]
      rfl
    rw [hconnection] at hwf ⊢
    refine ⟨hwf, hb.mailbox, hb.plaintext, hb.output, ?_, hb.framed, ?_⟩
    · rw [hreads, hextracts, hnone]
      show Tracks P V live start c.engine (_ ++ []) _
      rw [List.append_nil]
      exact hb.tracks
    · have hstream := hb.stream
      rw [Buffer.held_eq_nil hzero] at hstream
      rw [hinjected]
      show _ ++ c.inbound.flip.clear.held = _
      rw [Buffer.held_clear]
      exact hstream
  · have hinbound := held_read (watchedEngine P V) budget hb.wellFormed hpos hdone
    have hread := read_full (watchedEngine P V) budget hpos
    rw [hread] at hdone
    obtain ⟨hreceived, hpayload', -⟩ := verdict_closing_done hdone
    obtain ⟨hf, hplaintext, houtput⟩ :=
      (hb.opening.receive hV hb.output budget).of_done hreceived
    have hconnection : (c.step (watchedEngine P V) budget .read).connection =
        (closing c (Connection.receive (watchedEngine P V) budget
          (Connection.opening (watchedEngine P V) c))).state := by
      rw [step, hread]
      rfl
    rw [hconnection] at hwf ⊢
    refine ⟨hwf, ?_, ?_, ?_, ?_, ?_, ?_⟩
    · rw [mailbox_closing]
      exact hb.mailbox
    · rw [engine_closing]
      exact hplaintext
    · rw [engine_closing]
      exact houtput
    · rw [engine_closing, outbound_closing, hreads, hextracts, hpayload',
        Buffer.drain_getD hf.wellFormed.scratch]
      exact hf.tracks
    · rw [engine_closing]
      exact hf.framed
    · rw [hread] at hinbound
      rw [engine_closing, hinbound, hinjected]
      exact hf.stream

/-- Pending ciphertext moves from the connection to the network; there is nothing to wrap. -/
theorem Between.extract (hb : Between P V live start commands past c) (budget : Nat) :
    Between P V live start (commands ++ [.extract])
      (past ++ [(.extract, c.step (watchedEngine P V) budget .extract)])
      (c.step (watchedEngine P V) budget .extract).connection := by
  have hreads : payloads .read (past ++ [(.extract, c.step (watchedEngine P V) budget .extract)]) =
      payloads .read past := payloads_concat_ne _ _ _ (by decide)
  have hextracts : payloads .extract
      (past ++ [(.extract, c.step (watchedEngine P V) budget .extract)]) =
        payloads .extract past ++ given (c.extract (watchedEngine P V) budget).verdict := by
    rw [payloads_concat_self, step, payload_ofOutcome]
  have hinjected : injected (commands ++ [.extract]) = injected commands :=
    injected_concat_other .extract commands (by simp)
  have hdrained : given (c.extract (watchedEngine P V) budget).verdict = c.outbound.held ∧
      (c.extract (watchedEngine P V) budget).state =
        { c with outbound := c.outbound.flip.clear } := by
    rcases Nat.eq_zero_or_pos c.outbound.position with hzero | hpos
    · rw [extract_idle _ budget hzero hb.mailbox, Buffer.held_eq_nil hzero]
      exact ⟨rfl, rfl⟩
    · rw [extract_pending _ budget hpos]
      exact ⟨rfl, rfl⟩
  have hconnection : (c.step (watchedEngine P V) budget .extract).connection =
      { c with outbound := c.outbound.flip.clear } := hdrained.2
  rw [hconnection]
  refine ⟨{ hb.wellFormed with outbound := Buffer.wellFormed_clear _ }, hb.mailbox, hb.plaintext,
    hb.output, ?_, hb.framed, ?_⟩
  · rw [hreads, hextracts, hdrained.1]
    show Tracks P V live start c.engine _ (_ ++ c.outbound.flip.clear.held)
    rw [Buffer.held_clear, List.append_nil]
    exact hb.tracks
  · rw [hinjected]
    exact hb.stream

theorem Between.inject (hb : Between P V live start commands past c) (budget : Nat) (bs : Bytes) :
    Between P V live start (commands ++ [.inject bs])
      (past ++ [(.inject bs, c.step (watchedEngine P V) budget (.inject bs))])
      (c.inject bs) := by
  refine ⟨wellFormed_inject hb.wellFormed bs, hb.mailbox, hb.plaintext, hb.output, ?_, hb.framed, ?_⟩
  · rw [payloads_concat_ne _ _ _ (by simp), payloads_concat_ne _ _ _ (by simp)]
    exact hb.tracks
  · rw [injected_concat_inject, ← hb.stream, List.append_assoc]
    exact congrArg _ (Buffer.held_put hb.wellFormed.inbound bs)

/-- A query changes nothing. -/
theorem Between.query (hb : Between P V live start commands past c) {command : Command}
    (s : Step (State (Watched ρ))) (hread : command ≠ .read) (hextract : command ≠ .extract)
    (hinject : ∀ bs, command ≠ .inject bs) :
    Between P V live start (commands ++ [command]) (past ++ [(command, s)]) c := by
  refine ⟨hb.wellFormed, hb.mailbox, hb.plaintext, hb.output, ?_, hb.framed, ?_⟩
  · rw [payloads_concat_ne _ _ _ hread, payloads_concat_ne _ _ _ hextract]
    exact hb.tracks
  · rw [injected_concat_other _ _ hinject]
    exact hb.stream

theorem Between.step (hV : V.Lawful P live) (hb : Between P V live start commands past c)
    (budget : Nat) {command : Command} (hwrite : ∀ bs, command ≠ .write bs)
    (hreturned : command = .read → (c.step (watchedEngine P V) budget command).returned = true) :
    Between P V live start (commands ++ [command])
      (past ++ [(command, c.step (watchedEngine P V) budget command)])
      (c.step (watchedEngine P V) budget command).connection := by
  cases command with
  | inject bs => exact hb.inject budget bs
  | read => exact hb.read hV budget (hreturned rfl)
  | write bs => exact absurd rfl (hwrite bs)
  | extract => exact hb.extract budget
  | peerCertificate => exact hb.query _ nofun nofun nofun
  | handshakeStatus => exact hb.query _ nofun nofun nofun
  | shutdown => exact hb.query _ nofun nofun nofun
  | isInitializing => exact hb.query _ nofun nofun nofun
  | describe => exact hb.query _ nofun nofun nofun

/-- Whether it returns or not, a command feeds only the next records of the stream. -/
theorem Between.fedInOrder_step (hV : V.Lawful P live)
    (hb : Between P V live start commands past c) (budget : Nat) {command : Command}
    (hwrite : ∀ bs, command ≠ .write bs) :
    FedInOrder (injected (commands ++ [command]))
      (c.step (watchedEngine P V) budget command).connection.engine := by
  obtain rfl | hread := eq_or_ne command .read
  · rw [injected_concat_other .read commands (by simp)]
    rcases Nat.eq_zero_or_pos c.inbound.position with hzero | hpos
    · rw [Connection.step, read_empty _ budget hzero]
      exact hb.fedInOrder
    · rw [Connection.step, read_full _ budget hpos]
      show FedInOrder _ (closing c _).state.engine
      rw [engine_closing]
      exact (hb.opening.receive hV hb.output budget).state
        (p := fun h => FedInOrder _ h.engine) (fun _ _ hf => hf.1.fedInOrder) fun _ hfed => hfed
  · exact (hb.step hV budget hwrite fun h => absurd h hread).fedInOrder

theorem between_after (hV : V.Lawful P live) (hstart : live start)
    (hplaintext : V.plaintext start = []) (houtput : V.output start = []) (budget : Nat)
    (commands : List Command) (hwrite : ∀ bs, .write bs ∉ commands)
    (hreturns : ReadsReturn (performed (watchedEngine P V) budget
      (new (watchedEngine P V) (State.watch ⟨start, 0, false⟩)) commands)) :
    Between P V live start commands
      (performed (watchedEngine P V) budget
        (new (watchedEngine P V) (State.watch ⟨start, 0, false⟩)) commands)
      (after (watchedEngine P V) budget
        (new (watchedEngine P V) (State.watch ⟨start, 0, false⟩)) commands) := by
  have hall := performed_invariant (watchedEngine P V) budget
    (new (watchedEngine P V) (State.watch ⟨start, 0, false⟩))
    (motive := fun commands past c => (∀ bs, .write bs ∉ commands) → ReadsReturn past →
      Between P V live start commands past c) ?_ ?_ commands
  · exact hall hwrite hreturns
  · intro _ _
    refine ⟨wellFormed_new _ _, rfl, hplaintext, houtput, ?_, nofun, ?_⟩
    · show Tracks P V live start _ [] ([] ++ (Buffer.withCapacity Record.maxLength).held)
      rw [Buffer.held_withCapacity]
      exact tracks_watch hV hstart hplaintext houtput
    · exact Buffer.held_withCapacity Record.maxLength
  · intro commands past c command ih hwrite hreturns
    rw [readsReturn_concat] at hreturns
    have hb := ih (fun bs hbs => hwrite bs (List.mem_append_left _ hbs)) hreturns.1
    apply hb.step hV budget _ hreturns.2
    rintro bs rfl
    exact hwrite bs (List.mem_append_right _ List.mem_cons_self)

end

end RecordLayer.Tls
