import RecordLayer.Proofs.Tls.Returning
import RecordLayer.Proofs.Tls.Settled

/-!
# Whole records that a read leaves

During a handshake the driver goes on until no whole record is left, but once the handshake is over
a read opens one record only. If that record held no plaintext, the read returns nothing although
the next record may be there.

* `UnwrapOk.waiting` says for each unwrap that succeeds whether it has opened a record;
* `Settling` bounds the whole records that are left: a read makes the bound smaller by one;
* `polling_empties`: a whole record is left only after a handshake, and as many reads as there are
  records leave none;
* `whole_record_left`: a request that comes with the end of the handshake is left by a read that
  returns nothing.
-/

namespace RecordLayer.Tls

open Outcome

variable {ρ : Type} {P : Provider ρ}

/-! ### One call -/

/-- No record of the region will be opened: the peer has closed, or there is none. -/
def Spent (s : State ρ) (region : Bytes) : Prop :=
  s.peerClosed = true ∨ ¬ Record.Whole region

theorem Spent.of_eq {s s' : State ρ} {region : Bytes} (hkept : s'.peerClosed = s.peerClosed)
    (h : Spent s region) : Spent s' region :=
  h.imp hkept.trans id

/-- An unwrap that succeeds has taken nothing or has opened the first record. If it took nothing
and does not ask for more room, there is nothing to open. -/
theorem UnwrapOk.waiting {s : State ρ} {source : Bytes} {room : Nat} {a : Answer (State ρ)}
    {r : Report} (h : UnwrapOk P s source room a r) :
    (r.consumed = 0 ∧ a.engine.peerClosed = s.peerClosed ∧
      (r.status ≠ .overflow → Spent a.engine source)) ∨
    (s.peerClosed = false ∧ Record.completeLength source = .ok (some r.consumed) ∧
      (r.status = .underflow ∨ r.status = .closed → a.engine.peerClosed = true)) := by
  cases h with
  | handedOut delivered stops =>
    refine .inl ⟨rfl, peerClosed_deliver delivered, fun hstatus => ?_⟩
    cases stops with
    | overflow pending => exact absurd rfl hstatus
    | closed pending peer => exact .inl peer
    | underflow pending peer partly => exact .inr (Record.not_whole partly)
  | opened delivered pending peer whole taken handled delivered' =>
    refine .inr ⟨(peerClosed_deliver delivered).symm.trans peer, ?_, peerClosed_of_unwrapStatus⟩
    rw [(length_opened whole).1]
    exact whole

/-! ### The whole records that are left -/

/-- If nothing else keeps records from being opened, there are fewer than so many. -/
def Settling (count : Nat) (s : State ρ) (region : Bytes) : Prop :=
  Spent s region ∨ (Record.frames region).length < count

theorem spent_of_settling_one {s : State ρ} {region : Bytes} (h : Settling 1 s region) :
    Spent s region := by
  rcases h with h | h
  · exact h
  · refine .inr fun hwhole => hwhole.frames_ne_nil ?_
    exact List.length_eq_zero_iff.mp (by omega)

/-- Opening a record leaves one less. -/
theorem frames_drop_of_completeLength {region : Bytes} {length : Nat}
    (h : Record.completeLength region = .ok (some length)) :
    (Record.frames region).length = (Record.frames (region.drop length)).length + 1 := by
  rw [Record.frames_of_completeLength h, List.length_cons]

/-- The bound holds on after an unwrap, and is smaller by one after the last call of a transfer,
which has found nothing to open or has opened a record. If it asks for more input, there is nothing
to open. -/
theorem settling_attempt {count : Nat} {t : Transfer (State ρ)} {r : Report}
    (h : Settling (count + 1) t.engine t.source.region)
    (hdone : (Transfer.attempt (engine P) .unwrap t).verdict = .done r) :
    let left := (Transfer.attempt (engine P) .unwrap t).state
    Settling (count + 1) left.engine left.source.region ∧
      (r.status ≠ .overflow → Settling count left.engine left.source.region) ∧
      (r.status = .underflow ∨ r.status = .closed → Spent left.engine left.source.region) := by
  intro left
  obtain ⟨hreport, hengine, hsource⟩ := Transfer.attempt_done hdone
  have hregion : left.source.region = t.source.region.drop r.consumed :=
    Buffer.region_advance hsource
  have hengine : left.engine = (Transfer.answer (engine P) .unwrap t).engine := hengine
  rw [hengine, hregion]
  -- a call that took nothing keeps the bound, one that opened a record lowers it
  rcases (unwrap_ok hreport).waiting with ⟨hnone, hkept, hspent⟩ | ⟨hopen, hwhole, hclosed⟩
  · rw [hnone, List.drop_zero]
    refine ⟨h.imp (Spent.of_eq hkept) id, fun hstatus => .inl (hspent hstatus), fun hstatus => ?_⟩
    apply hspent
    rcases hstatus with hstatus | hstatus <;> rw [hstatus] <;> nofun
  · have hless : (Record.frames t.source.region).length < count + 1 := by
      rcases h with (hpeer | hnone) | hless
      · rw [hopen] at hpeer
        cases hpeer
      · exact absurd ⟨_, hwhole⟩ hnone
      · exact hless
    have hdrop := frames_drop_of_completeLength hwhole
    exact ⟨.inr (by omega), fun _ => .inr (by omega), fun hstatus => .inl (hclosed hstatus)⟩

/-! ### Transfers and turns -/

/-- A wrap leaves it to the peer to close. -/
theorem settling_wrap {count : Nat} {budget : Nat} {h : Handshake (State ρ)}
    (hs : Settling count h.engine h.inbound.region) :
    (h.wrap (engine P) budget).Ensures (fun h _ => Settling count h.engine h.inbound.region)
      fun _ => True := by
  have hkept : (Transfer.exchange (engine P) .wrap budget ⟨h.engine, h.scratch, h.outbound⟩).Ensures
      (fun t _ => t.engine.peerClosed = h.engine.peerClosed) fun _ => True := by
    refine Transfer.exchange_ensures (I := fun t => t.engine.peerClosed = h.engine.peerClosed)
      (fun _ _ => trivial) (fun t ht => ensures_of_done fun r hdone => ?_) budget rfl
    obtain ⟨-, hengine, -⟩ := Transfer.attempt_done hdone
    have hwrap := (congrArg State.peerClosed hengine).trans ((peerClosed_wrap _ _ _).trans ht)
    split
    · exact hwrap
    · exact hwrap
  exact ((Transfer.run_ensures (taskless_engine P) hkept).imp
    (fun t _ ht => hs.imp (Spent.of_eq ht) id) fun _ _ => trivial).mapState

theorem settling_unwrap {count : Nat} {budget : Nat} {h : Handshake (State ρ)}
    (hs : Settling (count + 1) h.engine h.inbound.region) :
    (h.unwrap (engine P) budget).Ensures
      (fun h r => Settling count h.engine h.inbound.region ∧
        (r.status = .underflow ∨ r.status = .closed → Spent h.engine h.inbound.region))
      fun _ => True := by
  have hlast : (Transfer.exchange (engine P) .unwrap budget
      ⟨h.engine, h.inbound, h.scratch⟩).Ensures
      (fun t r => Settling count t.engine t.source.region ∧
        (r.status = .underflow ∨ r.status = .closed → Spent t.engine t.source.region))
      fun _ => True := by
    refine Transfer.exchange_ensures (I := fun t => Settling (count + 1) t.engine t.source.region)
      (fun _ _ => trivial) (fun t ht => ensures_of_done fun r hdone => ?_) budget hs
    obtain ⟨hkept, hless, hspent⟩ := settling_attempt ht hdone
    split
    · exact hkept
    · next hstatus => exact ⟨hless hstatus, hspent⟩
  exact (Transfer.run_ensures (taskless_engine P) hlast).mapState

theorem Settling.mono {count larger : Nat} {s : State ρ} {region : Bytes} (hle : count ≤ larger)
    (h : Settling count s region) : Settling larger s region :=
  h.imp id fun hless => Nat.lt_of_lt_of_le hless hle

theorem notHandshaking_of_idle {s : State ρ} (hwrap : handshakeStatus P s ≠ .needWrap)
    (hunwrap : handshakeStatus P s ≠ .needUnwrap) : handshakeStatus P s = .notHandshaking := by
  rw [handshakeStatus] at hwrap hunwrap ⊢
  split
  · next hwants => exact absurd (if_pos hwants) hwrap
  · next hnone =>
    rw [if_neg hnone] at hunwrap
    split
    · next hhandshaking => exact absurd (if_pos hhandshaking) hunwrap
    · rfl

/-- The driver ends when there is nothing to open or the handshake is over. -/
theorem settling_drive {count : Nat} {budget turns : Nat} {h : Handshake (State ρ)}
    (hs : Settling count h.engine h.inbound.region) :
    (h.drive (engine P) budget turns).Ensures
      (fun h _ => Settling count h.engine h.inbound.region ∧
        (Spent h.engine h.inbound.region ∨ handshakeStatus P h.engine = .notHandshaking))
      fun _ => True := by
  refine Handshake.drive_ensures (I := fun h => Settling count h.engine h.inbound.region)
    (fun _ _ => trivial) (fun h hs _ => settling_wrap hs) (fun h hs _ => ?_)
    (fun h hs hwrap hunwrap => ⟨hs, .inr ?_⟩) turns hs
  · refine (settling_unwrap (hs.mono (Nat.le_succ count))).imp (fun h r hnext => ?_)
      fun _ _ => trivial
    split
    · next hstop => exact ⟨hnext.1, .inl (hnext.2 hstop)⟩
    · exact hnext.1
  · exact notHandshaking_of_idle hwrap hunwrap

/-! ### Reads -/

open Connection

theorem settling_receive {count : Nat} {budget : Nat} {h : Handshake (State ρ)}
    (hs : Settling (count + 1) h.engine h.inbound.region) :
    (receive (engine P) budget h).Ensures
      (fun h _ => Settling count h.engine h.inbound.region ∧
        (Spent h.engine h.inbound.region ∨ handshakeStatus P h.engine = .notHandshaking))
      fun _ => True :=
  (settling_unwrap hs).andThen fun _ _ hfirst => settling_drive hfirst.1

/-- A read that returns leaves one record less than the bound, and a record that it leaves is no
part of the handshake. -/
theorem settling_read {count : Nat} {budget : Nat} {c : Connection (State ρ)} (h : c.WellFormed)
    (hs : Settling (count + 1) c.engine c.inbound.held) {payload : Option Bytes}
    (hdone : (c.read (engine P) budget).verdict = .done payload) :
    let left := (c.read (engine P) budget).state
    Settling count left.engine left.inbound.held ∧
      (Spent left.engine left.inbound.held ∨ handshakeStatus P left.engine = .notHandshaking) := by
  intro left
  rcases Nat.eq_zero_or_pos c.inbound.position with hzero | hpos
  · have hempty : left.inbound.held = [] := by
      show (c.read (engine P) budget).state.inbound.held = []
      rw [read_empty _ _ hzero]
      exact Buffer.held_clear _
    have hspent : Spent left.engine left.inbound.held := by
      rw [hempty]
      exact .inr (by decide)
    exact ⟨.inl hspent, .inl hspent⟩
  · have hopening : Settling (count + 1) (opening (engine P) c).engine
        (opening (engine P) c).inbound.region := by
      rw [show (opening (engine P) c).inbound.region = c.inbound.held from Buffer.region_ofBytes _]
      exact hs
    have hheld : left.inbound.held = _ := held_read (engine P) budget h hpos hdone
    have hengine : left.engine = (receive (engine P) budget (opening (engine P) c)).state.engine := by
      show (c.read (engine P) budget).state.engine = _
      rw [read_full _ _ hpos, engine_closing]
    rw [read_full _ _ hpos] at hdone
    rw [hheld, hengine]
    exact (settling_receive hopening).of_done (verdict_closing_done hdone).1

/-- As many reads as the bound allows, if they all return, leave nothing to open. -/
theorem settling_polls {count : Nat} {budget : Nat} {c : Connection (State ρ)} (h : c.WellFormed)
    (hs : Settling (count + 1) c.engine c.inbound.held)
    (hreturn : ReadsReturn (performed (engine P) budget c (List.replicate count .read))) :
    let last := after (engine P) budget c (List.replicate count .read)
    Spent last.engine last.inbound.held := by
  induction count generalizing c with
  | zero => exact spent_of_settling_one hs
  | succ count ih =>
    rw [List.replicate_succ, performed_cons, ReadsReturn, List.forall_mem_cons] at hreturn
    obtain ⟨payload, hdone⟩ := done_of_returned (hreturn.1 rfl)
    rw [List.replicate_succ, after_cons]
    exact ih (wellFormed_step _ budget h .read) (settling_read h hs hdone).1 hreturn.2

/-- A whole record is left by a read that returns only if the handshake is over, and then the read
has opened one. So as many reads as there are whole records leave none, unless one of them fails or
the peer closes. -/
theorem polling_empties (P : Provider ρ) (budget : Nat) (s : State ρ) (commands : List Command) :
    let c := after (engine P) budget (new (engine P) s) commands
    let left := (c.step (engine P) budget .read).connection
    (∀ payload, (c.step (engine P) budget .read).reply = .payload payload →
      left.engine.peerClosed = false → Record.Whole left.inbound.held →
        handshakeStatus P left.engine = .notHandshaking ∧
          (Record.frames left.inbound.held).length < (Record.frames c.inbound.held).length) ∧
    ∀ count, (Record.frames c.inbound.held).length ≤ count →
      let polls : List Command := List.replicate count .read
      let last := after (engine P) budget c polls
      ReadsReturn (performed (engine P) budget c polls) → last.engine.peerClosed = false →
        ¬ Record.Whole last.inbound.held := by
  intro c left
  have hwf : c.WellFormed := wellFormed_after _ budget (wellFormed_new _ s) commands
  have hnot : ∀ {s : State ρ} {region : Bytes}, s.peerClosed = false → Spent s region →
      ¬ Record.Whole region := by
    intro s region hopen hspent
    rcases hspent with hclosed | hnone
    · rw [hopen] at hclosed
      cases hclosed
    · exact hnone
  constructor
  · intro payload hreply hopen hwhole
    obtain ⟨hless, hover⟩ := settling_read hwf (.inr (Nat.lt_succ_self _)) (verdict_of_reply hreply)
    have hsome : ¬ Spent left.engine left.inbound.held := fun hspent => hnot hopen hspent hwhole
    exact ⟨hover.resolve_left hsome, hless.resolve_left hsome⟩
  · intro count hcount polls last hreturn hopen
    exact hnot hopen (settling_polls hwf (.inr (Nat.lt_succ_of_le hcount)) hreturn)

/-! ### A request that comes with the end of the handshake -/

/-- The server of the meeting when it has got three records: two end the handshake, and the third is
a request. -/
def answeredServer : Connection (State Symbolic.Server) :=
  after (engine Symbolic.Server.provider) 9 (fresh Symbolic.Server.provider meetingServer)
    (meeting.take 4)

/-- What three reads come to. The run of both parties is evaluated here once. -/
theorem reads_answeredServer :
    let E := engine Symbolic.Server.provider
    let c := answeredServer
    let first := c.step E 9 .read
    let polls : List Command := List.replicate 3 .read
    first.reply = .payload none ∧ first.connection.engine.peerClosed = false ∧
      Record.Whole first.connection.inbound.held ∧
      (first.connection.step E 9 .read).reply = .payload (some [104, 105]) ∧
      ReadsReturn (performed E 9 c polls) ∧ (after E 9 c polls).engine.peerClosed = false ∧
      ∀ record ∈ [c.inbound.held.take 6, (c.inbound.held.drop 6).take 74,
        (c.inbound.held.drop 6).drop 74], Record.IsRecord record := by
  decide +kernel

theorem length_frames_answeredServer :
    (Record.frames answeredServer.inbound.held).length = 3 := by
  obtain ⟨-, -, -, -, -, -, hrecords⟩ := reads_answeredServer
  have hcut : [answeredServer.inbound.held.take 6, (answeredServer.inbound.held.drop 6).take 74,
      (answeredServer.inbound.held.drop 6).drop 74].flatten ++ [] =
        answeredServer.inbound.held := by
    simp only [List.flatten_cons, List.flatten_nil, List.append_nil, List.take_append_drop]
  rw [← Record.frames_unique hrecords hcut nofun]
  rfl

/-- Three reads leave nothing of the three records, and the first of them leaves the request. -/
theorem polling_empties_meeting :
    let E := engine Symbolic.Server.provider
    let left := (answeredServer.step E 9 .read).connection
    let polls : List Command := List.replicate 3 .read
    ((answeredServer.step E 9 .read).reply = .payload none ∧ left.engine.peerClosed = false ∧
        Record.Whole left.inbound.held) ∧
      handshakeStatus Symbolic.Server.provider left.engine = .notHandshaking ∧
      (Record.frames answeredServer.inbound.held).length ≤ 3 ∧
      ReadsReturn (performed E 9 answeredServer polls) ∧
      (after E 9 answeredServer polls).engine.peerClosed = false ∧
      ¬ Record.Whole (after E 9 answeredServer polls).inbound.held := by
  intro E left polls
  obtain ⟨hnone, hopen, hwhole, -, hreturn, hlast, -⟩ := reads_answeredServer
  have hthree : (Record.frames answeredServer.inbound.held).length ≤ 3 :=
    Nat.le_of_eq length_frames_answeredServer
  obtain ⟨honce, hall⟩ := polling_empties Symbolic.Server.provider 9 ⟨meetingServer, 0, false⟩
    (meeting.take 4)
  exact ⟨⟨hnone, hopen, hwhole⟩, (honce none hnone hopen hwhole).1, hthree, hreturn, hlast,
    hall 3 hthree hreturn hlast⟩

/-- A read returns nothing and leaves a whole record, which the next read decrypts without any
further input. -/
theorem whole_record_left :
    let E := engine Symbolic.Server.provider
    let first := answeredServer.step E 9 .read
    first.reply = .payload none ∧ first.connection.engine.peerClosed = false ∧
      Record.Whole first.connection.inbound.held ∧
      (first.connection.step E 9 .read).reply = .payload (some [104, 105]) := by
  obtain ⟨hnone, hopen, hwhole, hsome, -⟩ := reads_answeredServer
  exact ⟨hnone, hopen, hwhole, hsome⟩

end RecordLayer.Tls
