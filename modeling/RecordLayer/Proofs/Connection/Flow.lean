import RecordLayer.Connection
import RecordLayer.Proofs.Handshake

/-!
# What the operations do to the buffers of a connection

`read` and `extract` are opened here once: `read_empty` and `read_full`, `extract_pending`,
`extract_idle` and `extract_wrap` say what they come to in each case. The accounts of transfers and
of the driver then become accounts of whole operations.
-/

namespace RecordLayer.Connection

variable {σ : Type}

/-- The buffers that are kept have their cursors in order. -/
structure WellFormed (c : Connection σ) : Prop where
  inbound : c.inbound.WellFormed
  mailbox : c.mailbox.WellFormed
  outbound : c.outbound.WellFormed

theorem wellFormed_new (E : Engine σ) (s : σ) : (new E s).WellFormed where
  inbound := Buffer.wellFormed_withCapacity _
  mailbox := Buffer.wellFormed_flip (Buffer.wellFormed_withCapacity _)
  outbound := Buffer.wellFormed_withCapacity _

theorem wellFormed_inject {c : Connection σ} (h : c.WellFormed) (bs : Bytes) :
    (c.inject bs).WellFormed :=
  { h with inbound := Buffer.wellFormed_put h.inbound bs }

theorem wellFormed_write {c : Connection σ} (h : c.WellFormed) (bs : Bytes) :
    (c.write bs).state.WellFormed :=
  { h with mailbox := Buffer.wellFormed_ofBytes bs }

/-! ### Reading -/

/-- The engine and the buffers that a read starts with. -/
def opening (E : Engine σ) (c : Connection σ) : Handshake σ :=
  ⟨c.engine, .ofBytes c.inbound.held, .withCapacity (E.applicationSize c.engine), c.outbound⟩

/-- The inbound buffer while it is read, at some position. -/
def turned (c : Connection σ) (position : Nat) : Buffer :=
  { c.inbound.flip with position }

/-- The end of a read: only a success puts the inbound buffer in order again. -/
def closing (c : Connection σ) (o : Outcome (Handshake σ) EngineError Unit) :
    Outcome (Connection σ) Error (Option Bytes) :=
  let left : Connection σ :=
    { c with engine := o.state.engine
             inbound := turned c o.state.inbound.position
             outbound := o.state.outbound }
  match o.verdict with
  | .done _ =>
    ⟨{ left with inbound := settle left.inbound }, o.events, .done o.state.scratch.drain.1⟩
  | .failed e => ⟨left, o.events, .failed (.unexpectedEof e)⟩
  | .unfinished => ⟨left, o.events, .unfinished⟩

theorem read_empty (E : Engine σ) (budget : Nat) {c : Connection σ} (h : c.inbound.position = 0) :
    c.read E budget = ⟨{ c with inbound := c.inbound.flip.clear }, [], .done none⟩ := by
  have hempty : c.inbound.flip.hasRemaining = false := by
    rw [Buffer.hasRemaining_flip, h]
    rfl
  simp only [read, hempty, Bool.false_eq_true, if_false]

theorem read_full (E : Engine σ) (budget : Nat) {c : Connection σ} (h : 0 < c.inbound.position) :
    c.read E budget = closing c (receive E budget (opening E c)) := by
  have hfull : c.inbound.flip.hasRemaining = true := by
    rw [Buffer.hasRemaining_flip]
    exact decide_eq_true h
  simp only [read, hfull, if_true]
  rfl

section

variable (c : Connection σ) (o : Outcome (Handshake σ) EngineError Unit)

@[simp] theorem events_closing : (closing c o).events = o.events := by
  rw [closing]
  split <;> rfl

@[simp] theorem engine_closing : (closing c o).state.engine = o.state.engine := by
  rw [closing]
  split <;> rfl

@[simp] theorem mailbox_closing : (closing c o).state.mailbox = c.mailbox := by
  rw [closing]
  split <;> rfl

@[simp] theorem outbound_closing : (closing c o).state.outbound = o.state.outbound := by
  rw [closing]
  split <;> rfl

end

/-- A read that makes a call is one that has something to read. -/
theorem mem_calls_read {E : Engine σ} {budget : Nat} {c : Connection σ} {call : Call}
    (h : call ∈ calls (c.read E budget).events) :
    0 < c.inbound.position ∧ call ∈ calls (receive E budget (opening E c)).events := by
  rcases Nat.eq_zero_or_pos c.inbound.position with hzero | hpos
  · rw [read_empty E budget hzero] at h
    cases h
  · rw [read_full E budget hpos, events_closing] at h
    exact ⟨hpos, h⟩

theorem verdict_closing_done {c : Connection σ} {o : Outcome (Handshake σ) EngineError Unit}
    {payload : Option Bytes} (h : (closing c o).verdict = .done payload) :
    o.verdict = .done () ∧ payload = o.state.scratch.drain.1 ∧
      (closing c o).state.inbound = settle (turned c o.state.inbound.position) := by
  rw [closing] at h ⊢
  split at h
  · next hv =>
    rw [hv]
    cases h
    exact ⟨rfl, rfl, rfl⟩
  · cases h
  · cases h

theorem wellFormed_opening (E : Engine σ) {c : Connection σ} (h : c.WellFormed) :
    (opening E c).WellFormed :=
  ⟨Buffer.wellFormed_ofBytes _, Buffer.wellFormed_withCapacity _, h.outbound⟩

theorem receive_moved (E : Engine σ) (budget : Nat) {h : Handshake σ} (hwf : h.WellFormed) :
    h.Moved (calls (receive E budget h).events) (receive E budget h).state := by
  have hfirst := Handshake.unwrap_moved E budget hwf
  rw [receive]
  rcases Outcome.andThen_cases (h.unwrap E budget) (fun h _ => h.drive E budget budget) with
    ⟨r, -, hnext⟩ | ⟨hstate, hevents, -⟩
  · rw [hnext, Outcome.events_after, Outcome.state_after, calls_append]
    exact hfirst.trans (Handshake.drive_moved E budget budget (hfirst.after hwf))
  · rw [hstate, hevents]
    exact hfirst

theorem receive_stopsAtFailure (E : Engine σ) (budget : Nat) (h : Handshake σ) :
    (receive E budget h).StopsAtFailure :=
  (Handshake.unwrap_stopsAtFailure E budget h).andThen
    fun _ _ => Handshake.drive_stopsAtFailure E budget budget _

/-- The region of the turned buffer is what is left of the bytes that were held. -/
theorem region_turned (c : Connection σ) (position : Nat) :
    (turned c position).region = c.inbound.held.drop position := by
  rw [Buffer.region_eq, Buffer.held, List.drop_take]
  rfl

theorem wellFormed_turned {c : Connection σ} (h : c.inbound.WellFormed) {position : Nat}
    (hposition : position ≤ c.inbound.position) : (turned c position).WellFormed :=
  ⟨hposition, Nat.le_trans h.1 h.2⟩

theorem held_settle {b : Buffer} (h : b.WellFormed) : (settle b).held = b.region := by
  have hlen := Buffer.length_region h
  rw [settle]
  split
  · exact Buffer.held_compact h
  · next hnone =>
    have hzero : b.remaining = 0 := by
      rw [Buffer.hasRemaining, decide_eq_true_eq] at hnone
      rw [Buffer.remaining]
      omega
    rw [Buffer.held_clear, List.length_eq_zero_iff.mp (hlen.trans hzero)]

theorem wellFormed_settle {b : Buffer} (h : b.WellFormed) : (settle b).WellFormed := by
  rw [settle]
  split
  · exact Buffer.wellFormed_compact h
  · exact Buffer.wellFormed_clear b

/-- What is held up to a position, when the turned buffer is taken for one that is being filled. -/
theorem held_turned {c : Connection σ} {position : Nat} (h : position ≤ c.inbound.position) :
    (turned c position).held = c.inbound.held.take position := by
  rw [Buffer.held, Buffer.held, List.take_take, Nat.min_eq_left h]
  rfl

/-- The position at the end is the count of bytes that unwraps took, whatever the end is. -/
theorem position_received (E : Engine σ) (budget : Nat) {c : Connection σ} (h : c.WellFormed) :
    let o := receive E budget (opening E c)
    o.state.inbound.position = (consumed .unwrap (calls o.events)).length ∧
      (consumed .unwrap (calls o.events)).length ≤ c.inbound.held.length := by
  intro o
  have hm := (receive_moved E budget (wellFormed_opening E h)).inbound
  have hregion : (opening E c).inbound.region = c.inbound.held := Buffer.region_ofBytes _
  constructor
  · rw [hm.position]
    exact Nat.zero_add _
  · rw [← hregion, hm.region, List.length_append]
    exact Nat.le_add_right _ _

/-- The account of a read. -/
structure ReadMoved (c : Connection σ) (o : Outcome (Connection σ) Error (Option Bytes)) : Prop where
  wellFormed : o.state.WellFormed
  mailbox : o.state.mailbox = c.mailbox
  outbound : c.outbound.Gains (produced .wrap (calls o.events)) o.state.outbound
  readsFrom : ReadsFrom .unwrap c.inbound.held (calls o.events)
  within : (consumed .unwrap (calls o.events)).length ≤ c.inbound.held.length
  inbound : ∀ payload, o.verdict = .done payload →
    o.state.inbound.held = c.inbound.held.drop (consumed .unwrap (calls o.events)).length
  plaintext : ∀ payload, o.verdict = .done payload → consumed .wrap (calls o.events) = [] →
    payload.getD [] = produced .unwrap (calls o.events)
  accepted : ∀ payload, o.verdict = .done payload → ∀ call ∈ calls o.events, call.Accepted
  acceptedBefore : ∀ earlier call later, calls o.events = earlier ++ call :: later →
    ∀ call' ∈ earlier, call'.Accepted

theorem read_moved (E : Engine σ) (budget : Nat) {c : Connection σ} (h : c.WellFormed) :
    ReadMoved c (c.read E budget) := by
  rcases Nat.eq_zero_or_pos c.inbound.position with hzero | hpos
  · have hheld := Buffer.held_eq_nil hzero
    rw [read_empty E budget hzero]
    refine ⟨{ h with inbound := Buffer.wellFormed_clear _ }, rfl, .refl h.outbound,
      readsFrom_nil _ _, Nat.zero_le _, ?_, ?_, fun _ _ _ hcall => absurd hcall List.not_mem_nil, ?_⟩
    · intro payload _
      rw [hheld, List.drop_nil]
      exact Buffer.held_clear _
    · intro payload hdone _
      cases hdone
      rfl
    · intro earlier call later hsplit
      simp at hsplit
  · have hstop := receive_stopsAtFailure E budget (opening E c)
    have hm := receive_moved E budget (wellFormed_opening E h)
    have hregion : (opening E c).inbound.region = c.inbound.held := Buffer.region_ofBytes _
    obtain ⟨hposition, hwithin⟩ := position_received E budget h
    have hturned : (turned c (receive E budget (opening E c)).state.inbound.position).WellFormed := by
      apply wellFormed_turned h.inbound
      rw [hposition, ← Buffer.length_held h.inbound]
      exact hwithin
    rw [read_full E budget hpos]
    refine ⟨⟨?_, ?_, ?_⟩, ?_, ?_, ?_, ?_, ?_, ?_, ?_, ?_⟩
    · rw [closing]
      split
      · exact wellFormed_settle hturned
      · exact hturned
      · exact hturned
    · rw [mailbox_closing]
      exact h.mailbox
    · rw [outbound_closing]
      exact hm.outbound.wellFormed
    · rw [mailbox_closing]
    · rw [events_closing, outbound_closing]
      exact hm.outbound
    · rw [events_closing, ← hregion]
      exact hm.readsFrom
    · rw [events_closing]
      exact hwithin
    · intro payload hdone
      rw [(verdict_closing_done hdone).2.2, held_settle hturned, region_turned, hposition,
        events_closing]
    · intro payload hdone hnone
      rw [events_closing] at hnone ⊢
      rw [(verdict_closing_done hdone).2.1, Buffer.drain_getD hm.scratch, hm.plaintext hnone]
      show (Buffer.withCapacity _).held ++ _ = _
      rw [Buffer.held_withCapacity, List.nil_append]
    · intro payload hdone call hcall
      rw [events_closing] at hcall
      exact Call.accepted_of_failure?_eq_none (hm.wellFormed call hcall).1
        ((hstop.smooth (verdict_closing_done hdone).1).failure?_call hcall)
    · intro earlier call later hsplit call' hcall
      rw [events_closing] at hsplit
      exact Call.accepted_of_failure?_eq_none
        (hm.wellFormed call' (hsplit ▸ List.mem_append_left _ hcall)).1
        (hstop.failure?_of_before hsplit hcall)

/-- A read that returns holds on to what its unwraps have left. -/
theorem held_read (E : Engine σ) (budget : Nat) {c : Connection σ} (h : c.WellFormed)
    (hpos : 0 < c.inbound.position) {payload : Option Bytes}
    (hdone : (c.read E budget).verdict = .done payload) :
    (c.read E budget).state.inbound.held = (receive E budget (opening E c)).state.inbound.region := by
  have hm := receive_moved E budget (wellFormed_opening E h)
  have hregion : (opening E c).inbound.region = c.inbound.held := Buffer.region_ofBytes _
  rw [(read_moved E budget h).inbound payload hdone, hm.inbound.region_eq_drop, hregion,
    read_full E budget hpos, events_closing]

/-! ### Extracting -/

/-- The end of an extraction that wrapped. -/
def closingWrap (c : Connection σ) (o : Outcome (Transfer σ) EngineError Report) :
    Outcome (Connection σ) Error (Option Bytes) :=
  let left : Connection σ :=
    { c with engine := o.state.engine, mailbox := o.state.source, outbound := o.state.destination }
  match o.verdict with
  | .done _ =>
    ⟨{ left with outbound := left.outbound.drain.2 }, o.events, .done left.outbound.drain.1⟩
  | .failed e => ⟨left, o.events, .failed (.connectionFailed e)⟩
  | .unfinished => ⟨left, o.events, .unfinished⟩

theorem extract_pending (E : Engine σ) (budget : Nat) {c : Connection σ}
    (h : 0 < c.outbound.position) :
    c.extract E budget =
      ⟨{ c with outbound := c.outbound.flip.clear }, [], .done (some c.outbound.held)⟩ := by
  have hdrain : c.outbound.drain = (some c.outbound.held, c.outbound.flip.clear) := by
    rw [Buffer.drain_eq, if_pos h]
  simp only [extract, hdrain]

theorem extract_idle (E : Engine σ) (budget : Nat) {c : Connection σ} (h : c.outbound.position = 0)
    (hmailbox : c.mailbox.hasRemaining = false) :
    c.extract E budget = ⟨{ c with outbound := c.outbound.flip.clear }, [], .done none⟩ := by
  simp only [extract, Buffer.drain_of_empty h, hmailbox, Bool.false_eq_true, if_false]

theorem extract_wrap (E : Engine σ) (budget : Nat) {c : Connection σ} (h : c.outbound.position = 0)
    (hmailbox : c.mailbox.hasRemaining = true) :
    c.extract E budget =
      closingWrap c
        (Transfer.run E .wrap budget ⟨c.engine, c.mailbox, c.outbound.flip.clear.clear⟩) := by
  simp only [extract, Buffer.drain_of_empty h, hmailbox, if_true]
  rfl

section

variable (c : Connection σ) (o : Outcome (Transfer σ) EngineError Report)

@[simp] theorem events_closingWrap : (closingWrap c o).events = o.events := by
  rw [closingWrap]
  split <;> rfl

@[simp] theorem engine_closingWrap : (closingWrap c o).state.engine = o.state.engine := by
  rw [closingWrap]
  split <;> rfl

@[simp] theorem inbound_closingWrap : (closingWrap c o).state.inbound = c.inbound := by
  rw [closingWrap]
  split <;> rfl

@[simp] theorem mailbox_closingWrap : (closingWrap c o).state.mailbox = o.state.source := by
  rw [closingWrap]
  split <;> rfl

end

/-- An extraction that makes a call has nothing pending and something to wrap. -/
theorem mem_calls_extract {E : Engine σ} {budget : Nat} {c : Connection σ} {call : Call}
    (h : call ∈ calls (c.extract E budget).events) :
    c.outbound.position = 0 ∧ c.mailbox.hasRemaining = true ∧
      call ∈ calls (Transfer.run E .wrap budget
        ⟨c.engine, c.mailbox, c.outbound.flip.clear.clear⟩).events := by
  rcases Nat.eq_zero_or_pos c.outbound.position with hzero | hpos
  · cases hmailbox : c.mailbox.hasRemaining with
    | false =>
      rw [extract_idle E budget hzero hmailbox] at h
      cases h
    | true =>
      rw [extract_wrap E budget hzero hmailbox, events_closingWrap] at h
      exact ⟨hzero, rfl, h⟩
  · rw [extract_pending E budget hpos] at h
    cases h

theorem verdict_closingWrap_done {c : Connection σ} {o : Outcome (Transfer σ) EngineError Report}
    {payload : Option Bytes} (h : (closingWrap c o).verdict = .done payload) :
    ∃ r, o.verdict = .done r := by
  rw [closingWrap] at h
  split at h
  · next r hdone => exact ⟨r, hdone⟩
  · cases h
  · cases h

/-- The payload that an operation returned, empty when there is none. -/
def given (verdict : Verdict Error (Option Bytes)) : Bytes :=
  match verdict with
  | .done (some bs) => bs
  | _ => []

@[simp] theorem given_done (payload : Option Bytes) :
    given (.done payload) = payload.getD [] := by
  cases payload <;> rfl

/-- The account of an extraction: what was returned and what is still held is what was held before
and what wraps gave. -/
structure ExtractMoved (c : Connection σ) (o : Outcome (Connection σ) Error (Option Bytes)) :
    Prop where
  wellFormed : o.state.WellFormed
  inbound : o.state.inbound = c.inbound
  directed : Directed .wrap (calls o.events)
  readsFrom : ReadsFrom .wrap c.mailbox.region (calls o.events)
  mailbox : c.mailbox.Reads (consumed .wrap (calls o.events)) o.state.mailbox
  outbound : given o.verdict ++ o.state.outbound.held =
    c.outbound.held ++ produced .wrap (calls o.events)

theorem given_closingWrap {c : Connection σ} {o : Outcome (Transfer σ) EngineError Report}
    (h : o.state.destination.WellFormed) :
    given (closingWrap c o).verdict ++ (closingWrap c o).state.outbound.held =
      o.state.destination.held := by
  rw [closingWrap]
  split
  · have hdrain := Buffer.drain_getD h
    show given (.done o.state.destination.drain.1) ++ o.state.destination.drain.2.held = _
    rw [Buffer.held_drain, List.append_nil, ← hdrain]
    cases o.state.destination.drain.1 <;> rfl
  · rfl
  · rfl

theorem extract_moved (E : Engine σ) (budget : Nat) {c : Connection σ} (h : c.WellFormed) :
    ExtractMoved c (c.extract E budget) := by
  rcases Nat.eq_zero_or_pos c.outbound.position with hzero | hpos
  · have hheld := Buffer.held_eq_nil hzero
    cases hmailbox : c.mailbox.hasRemaining with
    | false =>
      rw [extract_idle E budget hzero hmailbox]
      refine ⟨{ h with outbound := Buffer.wellFormed_clear _ }, rfl, nofun, readsFrom_nil _ _,
        .refl _, ?_⟩
      show [] ++ c.outbound.flip.clear.held = c.outbound.held ++ []
      rw [Buffer.held_clear, hheld]
    | true =>
      have hm := Transfer.run_moved E .wrap budget
        (t := ⟨c.engine, c.mailbox, c.outbound.flip.clear.clear⟩) h.mailbox
        (Buffer.wellFormed_clear _)
      rw [extract_wrap E budget hzero hmailbox]
      refine ⟨⟨?_, ?_, ?_⟩, ?_, ?_, ?_, ?_, ?_⟩
      · rw [inbound_closingWrap]
        exact h.inbound
      · rw [mailbox_closingWrap]
        exact hm.source.wellFormed h.mailbox
      · rw [closingWrap]
        split
        · exact Buffer.wellFormed_drain _
        · exact hm.destination.wellFormed
        · exact hm.destination.wellFormed
      · rw [inbound_closingWrap]
      · rw [events_closingWrap]
        exact hm.directed
      · rw [events_closingWrap]
        exact hm.readsFrom
      · rw [events_closingWrap, mailbox_closingWrap]
        exact hm.source
      · rw [given_closingWrap hm.destination.wellFormed, events_closingWrap, hm.destination.held,
          hheld]
        congr 1
  · rw [extract_pending E budget hpos]
    refine ⟨{ h with outbound := Buffer.wellFormed_clear _ }, rfl, nofun, readsFrom_nil _ _,
      .refl _, ?_⟩
    show c.outbound.held ++ c.outbound.flip.clear.held = c.outbound.held ++ []
    rw [Buffer.held_clear]

end RecordLayer.Connection
