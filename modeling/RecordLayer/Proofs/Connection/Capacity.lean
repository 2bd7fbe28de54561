import RecordLayer.Proofs.Connection.Keeping
import RecordLayer.Proofs.Transfer.Growth

/-!
# The memory of a connection

Storages never shrink, and both ways to make them larger start from a cursor: a put from the limit,
a retry after an overflow from the position. Still their sizes do not add up. A put that needs more
room has a limit below the position that it will reach, and what an overflow adds stands behind the
position that the call has reached.

* `ConstantSizes` are engines whose session size stays what it is;
* `Buffer.capacity_put_le` is the account of a put, `Grows` that of a stretch of wraps, which
  `Grows.trans` adds up;
* `capacity_linear` bounds both storages after every history by the positions that were reached.
-/

namespace RecordLayer

/-- Whatever an engine does, its session size stays what it was. -/
def ConstantSizes {σ : Type} (E : Engine σ) : Prop :=
  ∀ size, E.Keeps fun s => E.sessionSize s = size

/-! ### The capacity of a buffer -/

namespace Buffer

theorem capacity_advance {b moved : Buffer} {count : Nat} (h : b.advance? count = some moved) :
    moved.capacity = b.capacity := by
  rw [advance?] at h
  split at h
  · cases h
    rfl
  · cases h

theorem position_put {b : Buffer} (h : b.WellFormed) (bs : Bytes) :
    (b.put bs).position = b.position + bs.length := by
  rw [put_eq, position_roomFor h]

/-- A put makes the storage larger only if its bytes reach beyond the limit, so the limit with their
length is below twice the position at the end. -/
theorem capacity_put_le {b : Buffer} (h : b.WellFormed) (bs : Bytes) :
    (b.put bs).capacity ≤ max b.capacity (2 * (b.put bs).position) := by
  rw [capacity_put h, position_put h, roomFor]
  split
  · next hshort =>
    rw [remaining] at hshort
    rw [capacity_resize h]
    omega
  · exact Nat.le_max_left _ _

end Buffer

/-! ### Peaks -/

def largest : List Nat → Nat
  | [] => 0
  | n :: ns => max n (largest ns)

theorem largest_append (xs ys : List Nat) : largest (xs ++ ys) = max (largest xs) (largest ys) := by
  induction xs with
  | nil => exact (Nat.zero_max _).symm
  | cons x xs ih => rw [List.cons_append, largest, largest, ih, Nat.max_assoc]

theorem largest_singleton (n : Nat) : largest [n] = n :=
  Nat.max_zero n

/-- Where the position of the destination stands after the call. It moves over what the call gave,
and stays where it was if the call was not accepted. -/
def Call.reached (c : Call) : Nat :=
  c.writing.position + c.produced.length

/-- The largest position that wraps have reached in their destination. -/
def wrapPeak (cs : List Call) : Nat :=
  largest ((cs.filter (·.direction = .wrap)).map Call.reached)

@[simp] theorem wrapPeak_append (xs ys : List Call) :
    wrapPeak (xs ++ ys) = max (wrapPeak xs) (wrapPeak ys) := by
  rw [wrapPeak, List.filter_append, List.map_append, largest_append]
  rfl

theorem wrapPeak_singleton {call : Call} (h : call.direction = .wrap) :
    wrapPeak [call] = call.reached := by
  simp only [wrapPeak, List.filter_cons, h, decide_true, if_true, List.filter_nil]
  exact largest_singleton _

/-- The account of what wraps do to the buffer that they write to: its position is at most their
peak, its storage at most a session size longer than that, and no longer on the way. -/
structure Grows (size : Nat) (b : Buffer) (cs : List Call) (left : Buffer) : Prop where
  position : left.position ≤ max b.position (wrapPeak cs)
  capacity : left.capacity ≤ max b.capacity (size + wrapPeak cs)
  during : ∀ call ∈ cs, call.direction = .wrap →
    call.writing.capacity ≤ max b.capacity (size + wrapPeak cs)

section

variable {size : Nat} {a b c : Buffer} {xs ys : List Call}

theorem Grows.refl (size : Nat) (a : Buffer) : Grows size a [] a :=
  ⟨Nat.le_max_left _ _, Nat.le_max_left _ _, nofun⟩

theorem Grows.of_unwraps (h : Directed .unwrap xs) : Grows size a xs a := by
  refine ⟨Nat.le_max_left _ _, Nat.le_max_left _ _, fun call hcall hwrap => ?_⟩
  rw [h call hcall] at hwrap
  cases hwrap

theorem Grows.trans (h : Grows size a xs b) (h' : Grows size b ys c) :
    Grows size a (xs ++ ys) c := by
  obtain ⟨hposition, hcapacity, hduring⟩ := h
  obtain ⟨hposition', hcapacity', hduring'⟩ := h'
  refine ⟨?_, ?_, fun call hcall hwrap => ?_⟩
  · rw [wrapPeak_append]
    omega
  · rw [wrapPeak_append]
    omega
  · rw [wrapPeak_append]
    rcases List.mem_append.mp hcall with hmem | hmem
    · have hcall := hduring call hmem hwrap
      omega
    · have hcall := hduring' call hmem hwrap
      omega

/-- A buffer that is emptied keeps its storage. -/
theorem Grows.of_emptied (hcapacity : b.capacity = a.capacity) (hposition : b.position = 0) :
    Grows size a [] b := by
  refine ⟨?_, ?_, nofun⟩
  · rw [hposition]
    exact Nat.zero_le _
  · rw [hcapacity]
    exact Nat.le_max_left _ _

end

/-! ### The destination of wraps -/

namespace Transfer

variable {σ : Type} {E : Engine σ} {size : Nat} {t : Transfer σ}

theorem capacity_attempt (E : Engine σ) (direction : Direction) (h : t.destination.WellFormed) :
    (attempt E direction t).state.destination.capacity = t.destination.capacity := by
  have hfill : (nextCall E direction t).writing.capacity = t.destination.capacity :=
    Buffer.capacity_fill h _
  rcases attempt_cases E direction t with ⟨_, _, _, -, -, hdest, hdone⟩ | ⟨_, -, hfailed⟩
  · rw [hdone]
    exact (Buffer.capacity_advance hdest).trans hfill
  · rw [hfailed]
    exact hfill

theorem position_attempt (E : Engine σ) (direction : Direction) (h : t.WellFormed) :
    (attempt E direction t).state.destination.position = (nextCall E direction t).reached := by
  have hm := (attempt_moved E direction h.source h.destination).destination
  have hlen := Buffer.length_held hm.wellFormed
  rw [hm.held, events_attempt, List.length_append, Buffer.length_held h.destination] at hlen
  rw [← hlen, Call.reached]
  exact congrArg (t.destination.position + ·.length) (produced_singleton _)

theorem wrapPeak_attempt (E : Engine σ) (h : t.WellFormed) :
    wrapPeak (calls (attempt E .wrap t).events) =
      (attempt E .wrap t).state.destination.position := by
  rw [position_attempt E .wrap h, events_attempt]
  exact wrapPeak_singleton rfl

theorem attempt_grows (E : Engine σ) (size : Nat) (h : t.WellFormed) :
    Grows size t.destination (calls (attempt E .wrap t).events)
      (attempt E .wrap t).state.destination := by
  refine ⟨?_, ?_, fun call hcall _ => ?_⟩
  · rw [wrapPeak_attempt E h]
    exact Nat.le_max_right _ _
  · rw [capacity_attempt E .wrap h.destination]
    exact Nat.le_max_left _ _
  · rw [events_attempt] at hcall
    rw [List.mem_singleton.mp hcall]
    exact Nat.le_trans (Nat.le_of_eq (Buffer.capacity_fill h.destination _)) (Nat.le_max_left _ _)

/-- What a retry adds stands behind the position that the call before it has reached. -/
theorem grow_grows (h : t.WellFormed)
    (hsize : E.sessionSize (attempt E .wrap t).state.engine = size) :
    Grows size t.destination (calls (attempt E .wrap t).events)
      (grow E (attempt E .wrap t).state).destination := by
  have hwf := (wellFormed_attempt E .wrap h).destination
  refine ⟨?_, ?_, (attempt_grows E size h).during⟩
  · rw [wrapPeak_attempt E h, grow, Buffer.position_resize hwf]
    exact Nat.le_trans (Nat.min_le_left _ _) (Nat.le_max_right _ _)
  · rw [wrapPeak_attempt E h, grow, Buffer.capacity_resize hwf,
      capacity_attempt E .wrap h.destination, hsize]

/-- By induction on the budget: one call with the growth behind it, and the account of the rest. -/
theorem exchange_grows (hE : E.Keeps fun s => E.sessionSize s = size) (budget : Nat)
    (h : t.WellFormed) (hsize : E.sessionSize t.engine = size) :
    Grows size t.destination (calls (exchange E .wrap budget t).events)
      (exchange E .wrap budget t).state.destination := by
  induction budget generalizing t with
  | zero => exact .refl size _
  | succ budget ih =>
    cases hretry : retried? E .wrap t with
    | some next =>
      have hgrown : Grows size t.destination (calls (attempt E .wrap t).events)
          next.destination := by
        obtain ⟨r, -, -, rfl⟩ := retried?_eq_some_iff.mp hretry
        exact grow_grows h (hE.attempt .wrap hsize)
      have hnext : E.sessionSize next.engine = size := by
        rw [engine_retry hretry]
        exact hE.call _ _ _ _ hsize
      rw [exchange_of_retry hretry, Outcome.state_after, Outcome.events_after, calls_append]
      exact hgrown.trans (ih (wellFormed_retry h hretry) hnext)
    | none =>
      rw [exchange_of_last hretry]
      exact attempt_grows E size h

theorem run_grows (hE : E.Keeps fun s => E.sessionSize s = size) (budget : Nat)
    (h : t.WellFormed) (hsize : E.sessionSize t.engine = size) :
    Grows size t.destination (calls (run E .wrap budget t).events)
      (run E .wrap budget t).state.destination := by
  rw [run_destination, calls_run, ← calls_exchange]
  exact exchange_grows hE budget h hsize

end Transfer

namespace Handshake

variable {σ : Type} {E : Engine σ} {size : Nat} {h : Handshake σ}

theorem unwrap_grows (E : Engine σ) (size budget : Nat) (hwf : h.WellFormed) :
    Grows size h.outbound (calls (h.unwrap E budget).events)
      (h.unwrap E budget).state.outbound :=
  .of_unwraps (Transfer.run_moved E .unwrap budget (t := ⟨h.engine, h.inbound, h.scratch⟩)
    hwf.inbound hwf.scratch).directed

theorem wrap_grows (hE : E.Keeps fun s => E.sessionSize s = size) (budget : Nat)
    (hwf : h.WellFormed) (hsize : E.sessionSize h.engine = size) :
    Grows size h.outbound (calls (h.wrap E budget).events)
      (h.wrap E budget).state.outbound :=
  Transfer.run_grows hE budget (t := ⟨h.engine, h.scratch, h.outbound⟩)
    ⟨hwf.scratch, hwf.outbound⟩ hsize

/-- What comes after a stretch of wraps adds to its account. -/
theorem grows_andThen {ε α β : Type} {o : Outcome (Handshake σ) ε α}
    {next : Handshake σ → α → Outcome (Handshake σ) ε β} {b : Buffer}
    (hfirst : Grows size b (calls o.events) o.state.outbound)
    (hnext : ∀ r, Grows size o.state.outbound (calls (next o.state r).events)
      (next o.state r).state.outbound) :
    Grows size b (calls (o.andThen next).events) (o.andThen next).state.outbound := by
  rcases Outcome.andThen_cases o next with ⟨r, -, hthen⟩ | ⟨hstate, hevents, -⟩
  · rw [hthen, Outcome.events_after, Outcome.state_after, calls_append]
    exact hfirst.trans (hnext r)
  · rw [hstate, hevents]
    exact hfirst

/-- By induction on the turns: only turns that wrap count. -/
theorem drive_grows (hE : E.Keeps fun s => E.sessionSize s = size) (budget turns : Nat)
    (hwf : h.WellFormed) (hsize : E.sessionSize h.engine = size) :
    Grows size h.outbound (calls (h.drive E budget turns).events)
      (h.drive E budget turns).state.outbound := by
  induction turns generalizing h with
  | zero => exact .refl size _
  | succ turns ih =>
    rw [drive, Outcome.events_after, Outcome.state_after, calls_append]
    simp only [calls_cons, calls_nil, List.nil_append]
    split
    · refine grows_andThen (wrap_grows hE budget hwf hsize) fun r => ?_
      exact ih ((wrap_moved E budget hwf).after hwf) (hE.run .wrap budget hsize)
    · refine grows_andThen (unwrap_grows E size budget hwf) fun r => ?_
      split
      · exact .refl size _
      · exact ih ((unwrap_moved E budget hwf).after hwf) (hE.run .unwrap budget hsize)
    · exact .refl size _
    · exact .refl size _
    · exact .refl size _

end Handshake

/-! ### The buffers of a connection -/

namespace Connection

variable {σ : Type} {E : Engine σ} {size : Nat} {c : Connection σ}

theorem receive_grows (hE : E.Keeps fun s => E.sessionSize s = size) (budget : Nat)
    {h : Handshake σ} (hwf : h.WellFormed) (hsize : E.sessionSize h.engine = size) :
    Grows size h.outbound (calls (receive E budget h).events)
      (receive E budget h).state.outbound := by
  rw [receive]
  refine Handshake.grows_andThen (Handshake.unwrap_grows E size budget hwf) fun r => ?_
  exact Handshake.drive_grows hE budget budget ((Handshake.unwrap_moved E budget hwf).after hwf)
    (hE.run .unwrap budget hsize)

theorem read_grows (hE : E.Keeps fun s => E.sessionSize s = size) (budget : Nat)
    (h : c.WellFormed) (hsize : E.sessionSize c.engine = size) :
    Grows size c.outbound (calls (c.read E budget).events)
      (c.read E budget).state.outbound := by
  rcases Nat.eq_zero_or_pos c.inbound.position with hzero | hpos
  · rw [read_empty E budget hzero]
    exact .refl size _
  · rw [read_full E budget hpos, events_closing, outbound_closing]
    exact receive_grows hE budget (wellFormed_opening E h) hsize

/-- What was wrapped is drained, or it stays in the buffer when the extraction fails. -/
theorem closingWrap_grows (size : Nat) (o : Outcome (Transfer σ) EngineError Report) :
    Grows size o.state.destination [] (closingWrap c o).state.outbound := by
  rw [closingWrap]
  split
  · exact .of_emptied rfl rfl
  · exact .refl size _
  · exact .refl size _

theorem extract_grows (hE : E.Keeps fun s => E.sessionSize s = size) (budget : Nat)
    (h : c.WellFormed) (hsize : E.sessionSize c.engine = size) :
    Grows size c.outbound (calls (c.extract E budget).events)
      (c.extract E budget).state.outbound := by
  rcases Nat.eq_zero_or_pos c.outbound.position with hzero | hpos
  · cases hmailbox : c.mailbox.hasRemaining with
    | false =>
      rw [extract_idle E budget hzero hmailbox]
      exact .of_emptied rfl rfl
    | true =>
      have hcleared : Grows size c.outbound [] c.outbound.flip.clear.clear := .of_emptied rfl rfl
      have hwrapped := Transfer.run_grows hE budget
        (t := ⟨c.engine, c.mailbox, c.outbound.flip.clear.clear⟩)
        ⟨h.mailbox, Buffer.wellFormed_clear _⟩ hsize
      rw [extract_wrap E budget hzero hmailbox, events_closingWrap]
      simpa only [List.nil_append, List.append_nil] using
        (hcleared.trans hwrapped).trans (closingWrap_grows size _)
  · rw [extract_pending E budget hpos]
    exact .of_emptied rfl rfl

theorem step_grows (hE : E.Keeps fun s => E.sessionSize s = size) (budget : Nat)
    (h : c.WellFormed) (hsize : E.sessionSize c.engine = size) (command : Command) :
    Grows size c.outbound (calls (c.step E budget command).events)
      (c.step E budget command).connection.outbound := by
  obtain rfl | hread := eq_or_ne command .read
  · exact read_grows hE budget h hsize
  obtain rfl | hextract := eq_or_ne command .extract
  · exact extract_grows hE budget h hsize
  · rw [calls_step_idle E budget c hread hextract, outbound_step_idle E budget c hread hextract]
    exact .refl size _

theorem capacity_settle {b : Buffer} (h : b.WellFormed) : (settle b).capacity = b.capacity := by
  rw [settle]
  split
  · exact Buffer.capacity_compact h
  · rfl

/-- Reading turns the inbound buffer around and back in the storage that it has. -/
theorem capacity_inbound_read (E : Engine σ) (budget : Nat) (h : c.WellFormed) :
    (c.read E budget).state.inbound.capacity = c.inbound.capacity := by
  rcases Nat.eq_zero_or_pos c.inbound.position with hzero | hpos
  · rw [read_empty E budget hzero]
    rfl
  · obtain ⟨hposition, hwithin⟩ := position_received E budget h
    have hturned : (turned c (receive E budget (opening E c)).state.inbound.position).WellFormed := by
      apply wellFormed_turned h.inbound
      rw [hposition, ← Buffer.length_held h.inbound]
      exact hwithin
    rw [read_full E budget hpos, closing]
    split
    · exact capacity_settle hturned
    · rfl
    · rfl

/-- The largest position of the inbound buffer right after an injection. -/
def injectPeak (past : Past σ) : Nat :=
  largest <| past.filterMap fun p =>
    match p.1 with
    | .inject _ => some p.2.connection.inbound.position
    | _ => none

theorem injectPeak_append (past more : Past σ) :
    injectPeak (past ++ more) = max (injectPeak past) (injectPeak more) := by
  rw [injectPeak, List.filterMap_append, largest_append]
  rfl

theorem inbound_step_le (E : Engine σ) (budget : Nat) (h : c.WellFormed) (command : Command) :
    (c.step E budget command).connection.inbound.capacity ≤
      max c.inbound.capacity (2 * injectPeak [(command, c.step E budget command)]) := by
  obtain rfl | hread := eq_or_ne command .read
  · exact Nat.le_trans (Nat.le_of_eq (capacity_inbound_read E budget h)) (Nat.le_max_left _ _)
  by_cases hinject : ∃ bs, command = .inject bs
  · obtain ⟨bs, rfl⟩ := hinject
    have hpeak : injectPeak [(.inject bs, c.step E budget (.inject bs))] =
        (c.inbound.put bs).position := largest_singleton _
    rw [hpeak]
    exact Buffer.capacity_put_le h.inbound bs
  · rw [inbound_step_idle E budget h hread (not_exists.mp hinject)]
    exact Nat.le_max_left _ _

/-- The memory of a connection is linear in what it really had to hold, however often a buffer grew,
was compacted and grew again. The inbound storage is at most twice as long as the largest position
that an injection has reached, and the outbound storage exceeds the largest position that it ever
had by at most one session size; both may be as long as they were at the start. -/
theorem capacity_linear (hE : ConstantSizes E) (budget : Nat) (s : σ) (commands : List Command) :
    let past := performed E budget (new E s) commands
    let c := after E budget (new E s) commands
    let room := max (E.packetSize s) (E.sessionSize s + wrapPeak (traced past))
    c.inbound.capacity ≤ max (E.packetSize s) (2 * injectPeak past) ∧
      c.outbound.position ≤ wrapPeak (traced past) ∧ c.outbound.capacity ≤ room ∧
      ∀ call ∈ traced past, call.direction = .wrap → call.writing.capacity ≤ room := by
  let start := Buffer.withCapacity (E.packetSize s)
  have hstart : start.capacity = E.packetSize s := List.length_replicate
  have hkeeps := hE (E.sessionSize s)
  have hall := performed_invariant E budget (new E s)
    (motive := fun _ past c => (c.WellFormed ∧ E.sessionSize c.engine = E.sessionSize s) ∧
      c.inbound.capacity ≤ max (E.packetSize s) (2 * injectPeak past) ∧
      Grows (E.sessionSize s) start (traced past) c.outbound)
    ⟨⟨wellFormed_new E s, rfl⟩, Nat.le_trans (Nat.le_of_eq hstart) (Nat.le_max_left _ _),
      .refl _ _⟩ ?_ commands
  · obtain ⟨-, hinbound, hposition, hcapacity, hduring⟩ := hall
    rw [hstart] at hcapacity hduring
    exact ⟨hinbound, Nat.le_trans hposition (Nat.le_of_eq (Nat.zero_max _)), hcapacity, hduring⟩
  · rintro _ past c command ⟨⟨hwf, hsize⟩, hinbound, houtbound⟩
    refine ⟨⟨wellFormed_step E budget hwf command, hkeeps.step budget hsize command⟩, ?_, ?_⟩
    · have hstep := inbound_step_le E budget hwf command
      rw [injectPeak_append]
      omega
    · rw [traced_concat]
      exact houtbound.trans (step_grows hkeeps budget hwf hsize command)

theorem sessionSize_dropDoneTasks (s : Scripted) :
    Scripted.engine.sessionSize s.dropDoneTasks = Scripted.engine.sessionSize s := by
  rw [Scripted.dropDoneTasks]
  split <;> rfl

/-- Neither calls nor tasks change the sizes of a script. -/
theorem constantSizes_scripted : ConstantSizes Scripted.engine := by
  intro size
  refine ⟨fun direction s source destination h => ?_, fun s h => ?_, fun s task h hfetched => ?_⟩
  · exact (Transfer.steadySizes_scripted direction s source destination).trans h
  · show Scripted.engine.sessionSize s.nextTask.1 = size
    rw [Scripted.nextTask]
    split
    · exact (sessionSize_dropDoneTasks s).trans h
    · exact (sessionSize_dropDoneTasks _).trans h
  · change s.nextTask.2 = some task at hfetched
    show Scripted.engine.sessionSize (task s.nextTask.1).1 = size
    rw [Scripted.nextTask] at hfetched ⊢
    split at hfetched
    · cases hfetched
    · cases hfetched
      exact (sessionSize_dropDoneTasks _).trans h

/-- The second injection makes the inbound storage longer, and two overflows the outbound one. Both
are as long as the positions require, and no longer than they allow. -/
theorem capacity_linear_overflowed :
    let script : Scripted := { packet := 4, application := 2, wraps := [
      .give .overflow (some 1) (.repeated 3), .give .overflow (some 0) (.repeated 4),
      .give .ok (some 1) (.repeated 1)] }
    let commands : List Command := [.inject [1, 2, 3], .inject [4, 5, 6], .write [7, 8], .extract]
    let past := performed Scripted.engine 9 (new Scripted.engine script) commands
    let c := after Scripted.engine 9 (new Scripted.engine script) commands
    ConstantSizes Scripted.engine ∧ injectPeak past = 6 ∧ wrapPeak (traced past) = 8 ∧
      c.inbound.capacity = 7 ∧ 7 ≤ max 4 (2 * 6) ∧
      c.outbound.capacity = 11 ∧ 11 ≤ max 4 (4 + 8) := by
  intro script commands past c
  obtain ⟨hinbound, -, houtbound, -⟩ :=
    capacity_linear constantSizes_scripted 9 script commands
  have hinject : injectPeak past = 6 := by decide
  have hwrap : wrapPeak (traced past) = 8 := by decide
  have hin : c.inbound.capacity = 7 := by decide
  have hout : c.outbound.capacity = 11 := by decide
  rw [hinject, hin] at hinbound
  rw [hwrap, hout] at houtbound
  exact ⟨constantSizes_scripted, hinject, hwrap, hin, hinbound, hout, houtbound⟩

end Connection

end RecordLayer
