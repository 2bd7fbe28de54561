import RecordLayer.Proofs.Symbolic.Sending
import RecordLayer.Proofs.Tls.Calls
import RecordLayer.Proofs.Transfer.Ending

/-!
# What a runner relies on

A runner believes an engine's counts only as far as they lie inside the regions of the call. The
counts of an engine over a session always do, and its status tells the state that the call left, so
no transfer over it fails because of counts.

* `confined_engine`: the counts lie inside the regions if the sessions take no more plaintext than
  there is;
* `Own` are the failures that calls on such an engine report;
* `UnwrapOk.due` is what an unwrap consumes and reports;
* `contract_met` is all of that, for calls and for transfers.
-/

namespace RecordLayer.Tls

open Transfer

variable {ρ : Type} {P : Provider ρ}

/-! ### Engines over sessions -/

/-- What is relied on of sessions that write: they take no more plaintext than there is. -/
def WritesWithin (P : Provider ρ) : Prop :=
  ∀ s bs s' count, P.writePlaintext s bs = (s', .ok count) → count ≤ bs.length

/-- A symbolic server takes what its queue has room for. -/
theorem writesWithin_symbolic : WritesWithin Symbolic.Server.provider := by
  intro s bs s' count hwrite
  have h : Symbolic.Server.writePlaintext s bs = (s', .ok count) := hwrite
  rw [Symbolic.Server.writePlaintext] at h
  split at h
  · cases h
  · cases h
    exact List.length_take_le' _ _

theorem WrapOk.counts (hwrites : WritesWithin P) {s : State ρ} {source : Bytes} {room : Nat}
    {a : Answer (State ρ)} {r : Report} (h : WrapOk P s source room a r) :
    r.consumed ≤ source.length ∧ r.produced ≤ room := by
  cases h with
  | idle unwanted => exact ⟨Nat.zero_le _, Nat.zero_le _⟩
  | flushed wanted smooth => exact ⟨Nat.zero_le _, length_flush_le P _ _⟩
  | wrote unwanted established taken smooth =>
    exact ⟨hwrites _ _ _ _ taken, length_flush_le P _ _⟩

theorem confined_engine (hwrites : WritesWithin P) : Confined (engine P) := by
  intro direction s source destination r hreport
  cases direction with
  | wrap => exact (wrap_ok hreport).counts hwrites
  | unwrap =>
    obtain ⟨hconsumed, hproduced, hroom⟩ := honest_unwrap P s source destination.length r hreport
    exact ⟨hconsumed, hproduced ▸ hroom⟩

/-! ### Failures -/

/-- The failures of the session, and its refusal of a record. -/
inductive Own : EngineError → Prop
  | io (text : String) : Own (.io text)
  | protocol (fault : ProtocolError) : Own (.protocol fault)
  | refused : Own (.misbehaved .recordRefused)

theorem flush_own {s : ρ} {room : Nat} {e : EngineError} (h : (flush P s room).failure = some e) :
    Own e := by
  induction s, room using flush.induct P with
  | case1 s room hwants s' text hflush =>
    rw [flush_failed hwants hflush] at h
    cases h
    exact .io _
  | case2 s room hwants s' bs hflush hnone =>
    rw [flush, if_pos hwants, hflush] at h
    simp only [dif_pos hnone] at h
    cases h
  | case3 s room hwants s' bs hflush hsome ih =>
    rw [flush, if_pos hwants, hflush] at h
    simp only [dif_neg hsome] at h
    exact ih h
  | case4 s room hwants =>
    rw [flush_idle hwants] at h
    cases h

theorem feed_own {s : ρ} {record : Bytes} {e : EngineError} (h : (feed P s record).2 = .error e) :
    Own e := by
  induction s, record using feed.induct P with
  | case1 s =>
    rw [feed, dif_pos rfl] at h
    cases h
  | case2 s record hsome s' text hfeed =>
    rw [feed, dif_neg hsome, hfeed] at h
    cases h
    exact .io _
  | case3 s record hsome s' hfeed =>
    rw [feed, dif_neg hsome, hfeed] at h
    cases h
    exact .refused
  | case4 s record hsome s' count hfeed ih =>
    rw [feed, dif_neg hsome, hfeed] at h
    exact ih h

theorem WrapFailed.own {s : State ρ} {source : Bytes} {room : Nat} {a : Answer (State ρ)}
    {e : EngineError} (h : WrapFailed P s source room a e) : Own e := by
  cases h with
  | unflushed wanted failed => exact flush_own failed
  | refused unwanted failed => exact .io _
  | unsent unwanted taken failed => exact flush_own failed

theorem UnwrapFailed.own {s : State ρ} {source : Bytes} {room : Nat} {a : Answer (State ρ)}
    {e : EngineError} (h : UnwrapFailed P s source room a e) : Own e := by
  cases h with
  | unread failed =>
    obtain ⟨text, rfl⟩ := deliver_failed failed
    exact .io text
  | rejected => exact .protocol _
  | refused delivered pending peer whole failed => exact feed_own (congrArg Prod.snd failed)
  | unprocessed => exact .protocol _
  | undelivered delivered pending peer whole taken handled failed =>
    obtain ⟨text, rfl⟩ := deliver_failed failed
    exact .io text

theorem call_own {direction : Direction} {s : State ρ} {source destination : Bytes}
    {e : EngineError}
    (h : ((engine P).call direction s source destination).report = .error e) : Own e := by
  cases direction with
  | wrap => exact (wrap_failed h).own
  | unwrap => exact (unwrap_failed h).own

/-! ### Statuses -/

/-- The status that a successful unwrap owes, by the state that it leaves. -/
def dueStatus (left : State ρ) (source : Bytes) : Status :=
  if 0 < left.pending then .overflow
  else if left.peerClosed then .closed
  else if Record.Whole source then .ok
  else .underflow

theorem dueStatus_of_whole (left : State ρ) {source : Bytes} (h : Record.Whole source) :
    dueStatus left source = unwrapStatus left := by
  rw [dueStatus, unwrapStatus, if_pos h]

theorem unwrapStatus_ne_underflow (s : State ρ) : unwrapStatus s ≠ .underflow := by
  rw [unwrapStatus]
  split
  · decide
  · split <;> decide

/-- Nothing or the first record is consumed, and nothing if more of it is needed. -/
theorem UnwrapOk.due {s : State ρ} {source : Bytes} {room : Nat} {a : Answer (State ρ)} {r : Report}
    (h : UnwrapOk P s source room a r) :
    (r.consumed = 0 ∨ Record.completeLength source = .ok (some r.consumed)) ∧
      r.status = dueStatus a.engine source ∧ (r.status = .underflow → r.consumed = 0) := by
  cases h with
  | handedOut delivered stops =>
    refine ⟨.inl rfl, ?_, fun _ => rfl⟩
    cases stops with
    | overflow pending => exact (if_pos pending).symm
    | closed pending peer =>
      simp only [dueStatus, pending, peer, Nat.lt_irrefl, if_false, if_true]
    | underflow pending peer partly =>
      simp only [dueStatus, pending, peer, Nat.lt_irrefl, Record.not_whole partly, if_false,
        Bool.false_eq_true]
  | opened delivered pending peer whole taken handled delivered' =>
    refine ⟨.inr ?_, (dueStatus_of_whole _ ⟨_, whole⟩).symm, fun hunderflow => ?_⟩
    · rw [(length_opened whole).1]
      exact whole
    · exact absurd hunderflow (unwrapStatus_ne_underflow _)

/-! ### Calls and transfers -/

/-- Whatever the state and the regions are, the counts of a call that succeeds lie inside them. An
unwrap consumes nothing or the first record, and its status is the due one. So a transfer accepts
every call that succeeds, and it fails only with what its last call reports, which is never that
counts were wrong. -/
theorem contract_met (hwrites : WritesWithin P) :
    (∀ direction s source destination r,
      ((engine P).call direction s source destination).report = .ok r →
        r.consumed ≤ source.length ∧ r.produced ≤ destination.length) ∧
    (∀ s source destination r,
      let a := (engine P).call .unwrap s source destination
      a.report = .ok r →
        (r.consumed = 0 ∨ Record.completeLength source = .ok (some r.consumed)) ∧
          r.status = dueStatus a.engine source ∧ (r.status = .underflow → r.consumed = 0)) ∧
    ∀ direction budget t,
      let o := Transfer.run (engine P) direction budget t
      (∀ call ∈ calls o.events, ∀ r, call.report = .ok r → call.accepted? = some r) ∧
      ∀ e, o.verdict = .failed e →
        (∃ last, (calls o.events).getLast? = some last ∧ last.report = .error e) ∧
        ∀ direction' consumed produced source room,
          e ≠ .misbehaved (.overreported direction' consumed produced source room) := by
  have hconfined := confined_engine hwrites
  refine ⟨hconfined, fun s source destination r hreport => (unwrap_ok hreport).due, ?_⟩
  intro direction budget t o
  obtain ⟨haccepted, hfailed⟩ := hconfined.run (taskless_engine P) direction budget t
  refine ⟨haccepted, fun e hverdict => ?_⟩
  obtain ⟨last, hlast, hreport⟩ := hfailed e hverdict
  refine ⟨⟨last, hlast, hreport⟩, ?_⟩
  have hmem := List.mem_of_getLast? hlast
  rw [calls_run, List.mem_map] at hmem
  obtain ⟨stage, -, rfl⟩ := hmem
  have hown : Own e := call_own hreport
  rintro direction' consumed produced source room rfl
  cases hown

/-- How a client protects what it sends to a server behind its handshake. -/
def clientChannel : Symbolic.Channel :=
  ⟨.client, .application, .tls13, .aesGcm, .empty, 0⟩

/-- A server behind its handshake that gets a record of two bytes and the header of another, with
room for one byte. -/
theorem contract_met_overflow :
    let P := Symbolic.Server.provider
    let config : ServerConfig := ⟨[], [.tls13], [.x25519], .none, [], [], []⟩
    let server : Symbolic.Server :=
      { Symbolic.Server.afterHandshake config .aesGcm [] with receiving := some clientChannel }
    let source := clientChannel.protect 23 [104, 105] ++ [23, 3, 3, 0, 19]
    let a := (engine P).call .unwrap ⟨server, 0, false⟩ source [0]
    (WritesWithin P ∧ a.report = .ok ⟨.overflow, 24, 1⟩) ∧
    (24 ≤ source.length ∧ Record.completeLength source = .ok (some 24) ∧
      Status.overflow = dueStatus a.engine source) ∧
    ∀ budget t e,
      (Transfer.run (engine P) .unwrap budget t).verdict = .failed e →
        ∀ direction consumed produced source room,
          e ≠ .misbehaved (.overreported direction consumed produced source room) := by
  intro P config server source a
  have hreport : a.report = .ok ⟨.overflow, 24, 1⟩ := by decide +kernel
  obtain ⟨hcounts, hdue, hrun⟩ := contract_met writesWithin_symbolic
  obtain ⟨hconsumed, hstatus, -⟩ := hdue _ _ _ _ hreport
  exact ⟨⟨writesWithin_symbolic, hreport⟩,
    ⟨(hcounts _ _ _ _ _ hreport).1, hconsumed.resolve_left (by decide), hstatus⟩,
    fun budget t e hfailed => ((hrun .unwrap budget t).2 e hfailed).2⟩

end RecordLayer.Tls
