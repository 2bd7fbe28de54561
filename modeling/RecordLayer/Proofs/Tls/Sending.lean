import RecordLayer.Proofs.Connection.Extraction
import RecordLayer.Proofs.Symbolic.Sending
import RecordLayer.Proofs.Tls.Sends

/-!
# Sending a payload

A payload is taken by the session bit by bit, and what it becomes is extracted bit by bit. Output
that waits goes before it.

* `Drained` is the account of a run of extractions; `Drained.cons` puts one more in front;
* `drained_behind_wrap` is what a wrap puts in front. `Sends.drained_mailbox`,
  `Sends.drained_waiting` and `Sends.drained` are such runs, from the shortest on;
* `payload_sent` is what becomes of a payload.
-/

namespace RecordLayer.Tls

open Connection

variable {σ ρ : Type} {P : Provider ρ} {output : ρ → Bytes} {live : ρ → Prop}

/-- Extracting until nothing is left sends what was pending, what waited, and what the rest of the
mailbox was turned into. -/
structure Drained (P : Provider ρ) (output : ρ → Bytes) (c : Connection (State (Watched ρ)))
    (chunks : List Bytes) (final : Connection (State (Watched ρ))) : Prop where
  extracts : Extracts (engine (P.watched output)) c chunks final
  nonempty : ∀ chunk ∈ chunks, chunk ≠ []
  mailbox : final.mailbox.hasRemaining = false
  accepted : final.engine.session.notes.accepted =
    c.engine.session.notes.accepted ++ c.mailbox.region
  flushed : output final.engine.session.session = []
  sent : ∃ queued,
    final.engine.session.notes.generated = c.engine.session.notes.generated ++ queued ∧
      chunks.flatten = c.outbound.held ++ output c.engine.session.session ++ queued

section

variable {c next final : Connection (State (Watched ρ))} {chunks : List Bytes}

/-- One more extraction in front: what it gave and what is left to send make up what was there, and
what the plaintext that it took was turned into. -/
theorem Drained.cons (h : Drained P output next chunks final) {bs queued : Bytes}
    (hextracts : ExtractsTo (engine (P.watched output)) c (some bs) next) (hbs : bs ≠ [])
    (haccepted : next.engine.session.notes.accepted ++ next.mailbox.region =
      c.engine.session.notes.accepted ++ c.mailbox.region)
    (hgenerated : next.engine.session.notes.generated = c.engine.session.notes.generated ++ queued)
    (hsent : bs ++ (next.outbound.held ++ output next.engine.session.session) =
      c.outbound.held ++ output c.engine.session.session ++ queued) :
    Drained P output c (bs :: chunks) final where
  extracts := .chunk hextracts h.extracts
  nonempty := by
    intro chunk hchunk
    rcases List.mem_cons.mp hchunk with rfl | hchunk
    · exact hbs
    · exact h.nonempty chunk hchunk
  mailbox := h.mailbox
  accepted := h.accepted.trans haccepted
  flushed := h.flushed
  sent := by
    obtain ⟨more, hmore, hchunks⟩ := h.sent
    refine ⟨queued ++ more, ?_, ?_⟩
    · rw [hmore, hgenerated, List.append_assoc]
    · rw [List.flatten_cons, hchunks, ← List.append_assoc, hsent, List.append_assoc]

/-- A wrap that flushes all that waited and all that it queued: this is the next chunk. -/
theorem drained_behind_wrap (hmailbox : c.mailbox.WellFormed) (hzero : c.outbound.position = 0)
    (hremaining : c.mailbox.hasRemaining = true) (bs queued : Bytes) {chunk : Bytes} {enough : Nat}
    (hexchange : (Transfer.exchange (engine (P.watched output)) .wrap enough
        ⟨c.engine, c.mailbox, c.outbound.flip.clear.clear⟩).Ensures
      (fun t _ => Flushing output live (c.engine.session.notes.accepted ++ bs)
          (c.engine.session.notes.generated ++ queued) chunk t ∧
        c.mailbox.Reads bs t.source ∧ waiting output t = []) fun _ => False)
    (hsome : chunk ≠ []) (hchunk : chunk = output c.engine.session.session ++ queued)
    (hrest : ∀ next : Connection (State (Watched ρ)), next.mailbox.WellFormed →
      live next.engine.session.session → next.outbound.position = 0 →
      output next.engine.session.session = [] → c.mailbox.Reads bs next.mailbox →
      ∃ chunks final, Drained P output next chunks final) :
    ∃ chunks final, Drained P output c chunks final := by
  obtain ⟨t, r, ⟨hf, hreads, hwaiting⟩, hextracts⟩ :=
    extractsTo_wrap (taskless_engine _) hzero hremaining hexchange
  have hnone : output t.engine.session.session = [] := hwaiting
  have hheld : t.destination.held = chunk := by
    rw [← hf.total, hnone, List.append_nil]
  rw [← hheld] at hsome
  rw [Buffer.drain_of_held hf.wellFormed hsome] at hextracts
  obtain ⟨chunks, final, hdrained⟩ := hrest
    { c with engine := t.engine, mailbox := t.source, outbound := t.destination.drain.2 }
    (hreads.wellFormed hmailbox) hf.live (Buffer.position_drain _) hnone hreads
  refine ⟨_, final, hdrained.cons hextracts hsome ?_ hf.generated ?_⟩
  · show t.engine.session.notes.accepted ++ t.source.region = _
    rw [hf.accepted, List.append_assoc]
    exact congrArg _ hreads.region.symm
  · show t.destination.held ++ (t.destination.drain.2.held ++ output t.engine.session.session) = _
    rw [Buffer.held_drain, hnone, List.append_nil, List.append_nil, hheld, hchunk,
      Buffer.held_eq_nil hzero, List.nil_append]

/-- By induction on what is left of the mailbox: each extraction takes some of it. -/
theorem Sends.drained_mailbox (h : Sends P output live) (c : Connection (State (Watched ρ)))
    (hmailbox : c.mailbox.WellFormed) (hs : live c.engine.session.session)
    (hzero : c.outbound.position = 0) (hwaiting : output c.engine.session.session = []) :
    ∃ chunks final, Drained P output c chunks final := by
  induction hlength : c.mailbox.region.length using Nat.strongRecOn generalizing c with
  | ind length ih =>
    cases hremaining : c.mailbox.hasRemaining with
    | false =>
      refine ⟨[], _, .nothing (extractsTo_idle _ hzero hremaining), nofun, hremaining, ?_, hwaiting,
        [], (List.append_nil _).symm, ?_⟩
      · rw [Buffer.region_eq_nil hremaining, List.append_nil]
      · rw [Buffer.held_eq_nil hzero, hwaiting]
        rfl
    | true =>
      obtain ⟨count, queued, enough, hpos, hcount, hqueued, hexchange⟩ :=
        h.exchange_writing (t := ⟨c.engine, c.mailbox, c.outbound.flip.clear.clear⟩) hmailbox
          (Buffer.wellFormed_clear _) hs hwaiting (Buffer.region_ne_nil hmailbox hremaining)
      rw [Buffer.held_clear, List.nil_append] at hexchange
      apply drained_behind_wrap hmailbox hzero hremaining _ queued hexchange hqueued
      · rw [hwaiting, List.nil_append]
      · intro next hmailbox' hs' hzero' hwaiting' hreads
        have hfits : count ≤ c.mailbox.region.length := hcount
        have hshorter : next.mailbox.region.length < length := by
          rw [hreads.region_eq_drop, List.length_drop, List.length_take]
          omega
        exact ih _ hshorter next hmailbox' hs' hzero' hwaiting' rfl

/-- Output that waits is sent before any of the mailbox. -/
theorem Sends.drained_waiting (h : Sends P output live) (c : Connection (State (Watched ρ)))
    (hmailbox : c.mailbox.WellFormed) (hremaining : c.mailbox.hasRemaining = true)
    (hs : live c.engine.session.session) (hzero : c.outbound.position = 0) :
    ∃ chunks final, Drained P output c chunks final := by
  by_cases hwaiting : output c.engine.session.session = []
  · exact h.drained_mailbox c hmailbox hs hzero hwaiting
  · have hexchange := h.exchange_flushing (t := ⟨c.engine, c.mailbox, c.outbound.flip.clear.clear⟩)
      hmailbox (Buffer.wellFormed_clear _) hs hwaiting (Nat.lt_succ_self _)
    rw [Buffer.held_clear, List.nil_append] at hexchange
    apply drained_behind_wrap hmailbox hzero hremaining [] []
      (hexchange.imp _ fun _ hfalse => hfalse) hwaiting (List.append_nil _).symm
    · intro next hmailbox' hs' hzero' hwaiting' _
      exact h.drained_mailbox next hmailbox' hs' hzero' hwaiting'
    · rintro t r ⟨hf, hreads, hnone⟩
      rw [List.append_nil, List.append_nil]
      exact ⟨hf, hreads, hnone⟩

/-- What is pending is sent before all else. -/
theorem Drained.pending (houtbound : c.outbound.WellFormed) (hpos : 0 < c.outbound.position)
    (h : Drained P output { c with outbound := c.outbound.flip.clear } chunks final) :
    Drained P output c (c.outbound.held :: chunks) final := by
  have hheld : c.outbound.held ≠ [] := by
    rw [← List.length_pos_iff, Buffer.length_held houtbound]
    exact hpos
  refine h.cons (extractsTo_pending _ hpos) hheld rfl (List.append_nil _).symm ?_
  show _ ++ (c.outbound.flip.clear.held ++ _) = _
  rw [Buffer.held_clear, List.append_nil]
  rfl

theorem Sends.drained (h : Sends P output live) (c : Connection (State (Watched ρ)))
    (houtbound : c.outbound.WellFormed) (hmailbox : c.mailbox.WellFormed)
    (hremaining : c.mailbox.hasRemaining = true) (hs : live c.engine.session.session) :
    ∃ chunks final, Drained P output c chunks final := by
  rcases Nat.eq_zero_or_pos c.outbound.position with hzero | hpos
  · exact h.drained_waiting c hmailbox hremaining hs hzero
  · obtain ⟨chunks, final, hdrained⟩ :=
      h.drained_waiting { c with outbound := c.outbound.flip.clear } hmailbox hremaining hs rfl
    exact ⟨_, final, hdrained.pending houtbound hpos⟩

/-- Without a payload the engine is left alone, whatever it has queued. -/
theorem extracts_of_empty (E : Engine σ) {c : Connection σ} (houtbound : c.outbound.WellFormed)
    (hremaining : c.mailbox.hasRemaining = false) :
    ∃ chunks, Extracts E c chunks { c with outbound := c.outbound.flip.clear } ∧
      (∀ chunk ∈ chunks, chunk ≠ []) ∧ chunks.flatten = c.outbound.held := by
  rcases Nat.eq_zero_or_pos c.outbound.position with hzero | hpos
  · refine ⟨[], .nothing (extractsTo_idle E hzero hremaining), nofun, ?_⟩
    rw [Buffer.held_eq_nil hzero]
    rfl
  · have hheld : c.outbound.held ≠ [] := by
      rw [← List.length_pos_iff, Buffer.length_held houtbound]
      exact hpos
    refine ⟨[c.outbound.held], .chunk (extractsTo_pending E hpos) (.nothing ?_), ?_, ?_⟩
    · exact extractsTo_idle E rfl hremaining
    · intro chunk hchunk
      rw [List.mem_singleton.mp hchunk]
      exact hheld
    · exact List.flatten_singleton

end

/-- A host writes a payload and extracts so many times. -/
def sending (payload : Bytes) (count : Nat) : List Command :=
  .write payload :: List.replicate count .extract

/-- The host gets the chunks and then nothing more, and the session, if it is watched, has taken the
payload. -/
structure Sent (P : Provider ρ) (output : ρ → Bytes) (c : Connection (State ρ)) (payload : Bytes)
    (chunks : List Bytes) (final : Connection (State (Watched ρ))) : Prop where
  seen : ∃ enough, ∀ budget, enough ≤ budget →
    (history (engine P) budget c (sending payload (chunks.length + 1))).map (·.reply) =
        .count payload.length :: (chunks.map (fun bs => .payload (some bs)) ++ [.payload none]) ∧
      after (engine P) budget c (sending payload (chunks.length + 1)) = final.map State.plain ∧
      after (engine (P.watched output)) budget (c.map State.watch)
        (sending payload (chunks.length + 1)) = final
  nonempty : ∀ chunk ∈ chunks, chunk ≠ []
  accepted : final.engine.session.notes.accepted = payload
  mailbox : final.mailbox.hasRemaining = false

theorem sent_of_extracts {c : Connection (State ρ)} {payload : Bytes} {chunks : List Bytes}
    {final : Connection (State (Watched ρ))}
    (hextracts : Extracts (engine (P.watched output))
      ((c.map State.watch).write payload).state chunks final)
    (hnonempty : ∀ chunk ∈ chunks, chunk ≠ [])
    (haccepted : final.engine.session.notes.accepted = payload)
    (hmailbox : final.mailbox.hasRemaining = false) : Sent P output c payload chunks final := by
  refine ⟨?_, hnonempty, haccepted, hmailbox⟩
  obtain ⟨enough, hhistory⟩ := hextracts.history
  refine ⟨enough, fun budget hle => ?_⟩
  obtain ⟨hreplies, hfinal⟩ := hhistory budget hle
  have hreplies' : (history (engine (P.watched output)) budget (c.map State.watch)
      (sending payload (chunks.length + 1))).map (·.reply) =
        .count payload.length :: (chunks.map (fun bs => .payload (some bs)) ++ [.payload none]) := by
    rw [sending, history, List.map_cons]
    exact congrArg _ hreplies
  have hfinal' : after (engine (P.watched output)) budget (c.map State.watch)
      (sending payload (chunks.length + 1)) = final := hfinal
  have hplain : c = (c.map State.watch).map State.plain := rfl
  refine ⟨?_, ?_, hfinal'⟩
  · rw [← hreplies', hplain, history_simulates (plain_simulates P (.watch output)), List.map_map]
    rfl
  · rw [← hfinal']
    exact after_simulates (plain_simulates P (.watch output)) budget (c.map State.watch) _

/-- Extracting after a write gives finitely many chunks, none of them empty, and then nothing. The
session has taken the payload, each byte once, and the mailbox is empty. If there was a payload at
all, the chunks are what was pending, what waited in the session and what was queued since; nothing
waits any more. Without a payload they are only what was pending, and the session is as it was. -/
theorem payload_sent (h : Sends P output live) {c : Connection (State ρ)}
    (houtbound : c.outbound.WellFormed) (hs : live c.engine.session) (payload : Bytes) :
    ∃ chunks final, Sent P output c payload chunks final ∧
      (payload ≠ [] ∨ output c.engine.session = [] →
        chunks.flatten =
            c.outbound.held ++ output c.engine.session ++ final.engine.session.notes.generated ∧
          output final.engine.session.session = []) ∧
      (payload = [] → chunks.flatten = c.outbound.held ∧ final.engine = c.engine.watch) := by
  let written := ((c.map State.watch).write payload).state
  have hregion : written.mailbox.region = payload := Buffer.region_ofBytes payload
  have hremaining : written.mailbox.hasRemaining = decide (0 < payload.length) := rfl
  by_cases hpayload : payload = []
  · rw [hpayload, List.length_nil] at hremaining
    obtain ⟨chunks, hextracts, hnonempty, hflatten⟩ :=
      extracts_of_empty (engine (P.watched output)) (c := written) houtbound hremaining
    refine ⟨chunks, _, sent_of_extracts hextracts hnonempty hpayload.symm hremaining, ?_,
      fun _ => ⟨hflatten, rfl⟩⟩
    rintro (hsome | hwaiting)
    · exact absurd hpayload hsome
    · refine ⟨?_, hwaiting⟩
      rw [hflatten, hwaiting, List.append_nil]
      exact (List.append_nil _).symm
  · rw [decide_eq_true (List.length_pos_iff.mpr hpayload)] at hremaining
    obtain ⟨chunks, final, hdrained⟩ :=
      h.drained written houtbound (Buffer.wellFormed_ofBytes payload) hremaining hs
    obtain ⟨queued, hgenerated, hchunks⟩ := hdrained.sent
    have haccepted := hdrained.accepted
    rw [hregion] at haccepted
    refine ⟨chunks, final, sent_of_extracts hdrained.extracts hdrained.nonempty haccepted
      hdrained.mailbox, fun _ => ⟨?_, hdrained.flushed⟩, fun hnone => absurd hnone hpayload⟩
    rw [hchunks, hgenerated]
    rfl

/-- A server sends two bytes, after an alert that it had queued. -/
theorem payload_sent_behind_alert :
    let config : ServerConfig := ⟨[], [.tls13], [.x25519], .none, [], [], []⟩
    let alert : Bytes := [21, 3, 3, 0, 2, 1, 0]
    let c := new Symbolic.Server.engine ⟨.afterHandshake config .aesGcm alert, 0, false⟩
    ∃ chunks final, Sent Symbolic.Server.provider Symbolic.Party.outgoing c [104, 105] chunks final ∧
      chunks.flatten = alert ++ final.engine.session.notes.generated := by
  intro config alert c
  obtain ⟨chunks, final, hsent, hsome, -⟩ := payload_sent Symbolic.Server.sends (c := c)
    (Buffer.wellFormed_withCapacity _)
    (Symbolic.Server.established_afterHandshake config .aesGcm alert) [104, 105]
  have houtbound : c.outbound.held = [] := Buffer.held_withCapacity _
  obtain ⟨hchunks, -⟩ := hsome (.inl (List.cons_ne_nil _ _))
  rw [houtbound] at hchunks
  exact ⟨chunks, final, hsent, hchunks⟩

/-- Without a payload the alert stays where it is: no run of extractions gives it. -/
theorem alert_not_sent_without_payload :
    let config : ServerConfig := ⟨[], [.tls13], [.x25519], .none, [], [], []⟩
    let alert : Bytes := [21, 3, 3, 0, 2, 1, 0]
    let c := new Symbolic.Server.engine ⟨.afterHandshake config .aesGcm alert, 0, false⟩
    Sends Symbolic.Server.provider Symbolic.Party.outgoing Symbolic.Server.Established ∧
      c.outbound.WellFormed ∧ Symbolic.Server.Established c.engine.session ∧
      ¬∃ chunks final, Sent Symbolic.Server.provider Symbolic.Party.outgoing c [] chunks final ∧
        chunks.flatten = c.outbound.held ++ Symbolic.Party.outgoing c.engine.session ++
          final.engine.session.notes.generated := by
  intro config alert c
  refine ⟨Symbolic.Server.sends, Buffer.wellFormed_withCapacity _,
    Symbolic.Server.established_afterHandshake config .aesGcm alert, ?_⟩
  rintro ⟨chunks, final, hsent, hchunks⟩
  have houtbound : c.outbound.held = [] := Buffer.held_withCapacity _
  rw [houtbound] at hchunks
  obtain ⟨enough, hseen⟩ := hsent.seen
  obtain ⟨hreplies, -, -⟩ := hseen enough (Nat.le_refl _)
  cases chunks with
  | nil => cases hchunks
  | cons chunk chunks =>
    -- The first extraction already gives nothing.
    have hidle := extract_idle Symbolic.Server.engine enough (c := (c.write []).state) rfl rfl
    have hfirst : ((c.write []).state.step Symbolic.Server.engine enough .extract).reply =
        .payload none := by
      rw [step, hidle]
      rfl
    rw [sending, List.length_cons, List.replicate_succ, history, history, List.map_cons,
      List.map_cons, List.map_cons, List.cons_append, List.cons.injEq, List.cons.injEq] at hreplies
    have hreply := hfirst.symm.trans hreplies.2.1
    cases hreply

end RecordLayer.Tls
