import RecordLayer.Proofs.Record
import RecordLayer.Proofs.Tls.Engine

/-!
# What calls have done

Whatever a session does, an engine call over it goes one of few ways. The calls are opened here
once, and their callers only tell the ways apart.

* `DeliverOk` are the ways of handing out plaintext;
* `UnwrapOk` and `UnwrapFailed` are the ways of an unwrap, and `unwrap_ok` and `unwrap_failed` say
  that there are no others; `WrapOk`, `WrapFailed`, `wrap_ok` and `wrap_failed` are those of a wrap;
* `deliver_progress` and `UnwrapOk.progress` say what an unwrap uses up, `UnwrapOk.counts` and
  `WrapOk.produced` what is reported, and `WrapOk.wanted_iff` what a wrap leaves to flush.
-/

namespace RecordLayer.Tls

variable {ρ : Type} {P : Provider ρ}

/-! ### Ways to succeed and to fail -/

section

variable {report : Except EngineError Report} {Ok : Report → Prop} {Failed : EngineError → Prop}

theorem ok_of_ways
    (hways : (∃ r, report = .ok r ∧ Ok r) ∨ ∃ e, report = .error e ∧ Failed e) {r : Report}
    (h : report = .ok r) : Ok r := by
  rcases hways with ⟨r', hok, hr⟩ | ⟨e, hfailed, -⟩
  · cases hok.symm.trans h
    exact hr
  · cases hfailed.symm.trans h

theorem failed_of_ways
    (hways : (∃ r, report = .ok r ∧ Ok r) ∨ ∃ e, report = .error e ∧ Failed e) {e : EngineError}
    (h : report = .error e) : Failed e := by
  rcases hways with ⟨r, hok, -⟩ | ⟨e', hfailed, he⟩
  · cases hok.symm.trans h
  · cases hfailed.symm.trans h
    exact he

end

/-! ### Handing out plaintext -/

/-- The ways of handing out plaintext when it does not fail. -/
inductive DeliverOk (P : Provider ρ) (s : State ρ) (room : Nat) : State ρ → Bytes → Prop
  /-- Nothing waits, or there is no room for it. -/
  | idle (idle : s.pending = 0 ∨ room = 0) : DeliverOk P s room s []
  /-- Plaintext was read. -/
  | read {session : ρ} {got : Bytes} (waits : 0 < s.pending) (space : 0 < room)
      (read : P.readPlaintext s.session room = (session, .bytes got)) :
      DeliverOk P s room
        { s with
          session
          pending := if got.take room = [] then 0 else s.pending - (got.take room).length }
        (got.take room)
  /-- The session had none. -/
  | blocked {session : ρ} (waits : 0 < s.pending) (space : 0 < room)
      (read : P.readPlaintext s.session room = (session, .wouldBlock)) :
      DeliverOk P s room { s with session, pending := 0 } []

theorem deliver_ok {s s' : State ρ} {room : Nat} {bs : Bytes}
    (h : deliver P s room = (s', .ok bs)) : DeliverOk P s room s' bs := by
  rw [deliver] at h
  split at h
  · next hidle =>
    cases h
    exact .idle hidle
  · next hbusy =>
    have hwaits : 0 < s.pending := Nat.pos_of_ne_zero (not_or.mp hbusy).1
    have hspace : 0 < room := Nat.pos_of_ne_zero (not_or.mp hbusy).2
    split at h
    · next session got hread =>
      cases h
      exact .read hwaits hspace hread
    · next session hread =>
      cases h
      exact .blocked hwaits hspace hread
    · cases h

theorem deliver_of_nothing (P : Provider ρ) {s : State ρ} (hpending : s.pending = 0) (room : Nat) :
    deliver P s room = (s, .ok []) := by
  rw [deliver, if_pos (.inl hpending)]

/-- Handing out fails only if reading does. -/
theorem deliver_failed {s s' : State ρ} {room : Nat} {e : EngineError}
    (h : deliver P s room = (s', .error e)) : ∃ text, e = .io text := by
  rw [deliver] at h
  split at h
  · cases h
  · split at h
    · cases h
    · cases h
    · cases h
      exact ⟨_, rfl⟩

/-- Where there is room, handing out leaves less to hand out, or nothing. -/
theorem deliver_progress {s s' : State ρ} {room : Nat} {bs : Bytes}
    (h : deliver P s room = (s', .ok bs)) :
    bs.length ≤ room ∧ s'.pending ≤ s.pending ∧
      (0 < room → 0 < s'.pending → s'.pending < s.pending) := by
  cases deliver_ok h with
  | idle hidle => exact ⟨Nat.zero_le _, Nat.le_refl _, by omega⟩
  | @read _ got hwaits hspace hread =>
    refine ⟨List.length_take_le _ _, ?_⟩
    split
    · exact ⟨Nat.zero_le _, fun _ hleft => absurd hleft (Nat.lt_irrefl 0)⟩
    · next hgot =>
      have hpos := List.length_pos_iff.mpr hgot
      refine ⟨Nat.sub_le _ _, fun _ _ => ?_⟩
      show s.pending - (got.take room).length < s.pending
      omega
  | blocked hwaits hspace hread =>
    exact ⟨Nat.zero_le _, Nat.zero_le _, fun _ hleft => absurd hleft (Nat.lt_irrefl 0)⟩

theorem peerClosed_deliver {s s' : State ρ} {room : Nat} {bs : Bytes}
    (h : deliver P s room = (s', .ok bs)) : s'.peerClosed = s.peerClosed := by
  cases deliver_ok h <;> rfl

/-! ### Unwraps -/

/-- Why an unwrap ends before it opens a record, and with which status, by what handing out has
left. -/
inductive Stops (s : State ρ) (source : Bytes) : Status → Prop
  | overflow (pending : 0 < s.pending) : Stops s source .overflow
  | closed (pending : s.pending = 0) (peer : s.peerClosed = true) : Stops s source .closed
  | underflow (pending : s.pending = 0) (peer : s.peerClosed = false)
      (partly : Record.completeLength source = .ok none) : Stops s source .underflow

theorem Stops.overflow_iff {s : State ρ} {source : Bytes} {status : Status}
    (h : Stops s source status) : status = .overflow ↔ 0 < s.pending := by
  cases h with
  | overflow hpending => exact iff_of_true rfl hpending
  | closed hpending => exact iff_of_false nofun (Nat.not_lt_of_le (Nat.le_of_eq hpending))
  | underflow hpending => exact iff_of_false nofun (Nat.not_lt_of_le (Nat.le_of_eq hpending))

theorem Stops.ne_ok {s : State ρ} {source : Bytes} {status : Status} (h : Stops s source status) :
    status ≠ .ok := by
  cases h <;> nofun

/-- The ways of an unwrap that succeeds. -/
inductive UnwrapOk (P : Provider ρ) (s : State ρ) (source : Bytes) (room : Nat) :
    Answer (State ρ) → Report → Prop
  /-- Only plaintext of the last record was handed out. -/
  | handedOut {s₁ : State ρ} {earlier : Bytes} {status : Status}
      (delivered : deliver P s room = (s₁, .ok earlier)) (stops : Stops s₁ source status) :
      UnwrapOk P s source room ⟨s₁, earlier, .ok ⟨status, 0, earlier.length⟩⟩
        ⟨status, 0, earlier.length⟩
  /-- Nothing of the last record was left, and one more was opened. -/
  | opened {s₁ s₂ : State ρ} {fed processed : ρ} {earlier later : Bytes} {length : Nat}
      {progress : Progress}
      (delivered : deliver P s room = (s₁, .ok earlier))
      (pending : s₁.pending = 0) (peer : s₁.peerClosed = false)
      (whole : Record.completeLength source = .ok (some length))
      (taken : feed P s₁.session (source.take length) = (fed, .ok ()))
      (handled : P.process fed = (processed, .ok progress))
      (delivered' : deliver P ⟨processed, progress.plaintext, progress.peerClosed⟩
        (room - earlier.length) = (s₂, .ok later)) :
      UnwrapOk P s source room
        ⟨s₂, earlier ++ later,
          .ok ⟨unwrapStatus s₂, (source.take length).length, earlier.length + later.length⟩⟩
        ⟨unwrapStatus s₂, (source.take length).length, earlier.length + later.length⟩

/-- The ways of an unwrap that fails. -/
inductive UnwrapFailed (P : Provider ρ) (s : State ρ) (source : Bytes) (room : Nat) :
    Answer (State ρ) → EngineError → Prop
  /-- Plaintext of the last record was not handed out. -/
  | unread {s₁ : State ρ} {e : EngineError} (failed : deliver P s room = (s₁, .error e)) :
      UnwrapFailed P s source room ⟨s₁, [], .error e⟩ e
  /-- The source begins with a header that is not accepted. -/
  | rejected {s₁ : State ρ} {earlier : Bytes} {fault : ProtocolError}
      (delivered : deliver P s room = (s₁, .ok earlier))
      (pending : s₁.pending = 0) (peer : s₁.peerClosed = false)
      (failed : Record.completeLength source = .error fault) :
      UnwrapFailed P s source room ⟨s₁, earlier, .error (.protocol fault)⟩ (.protocol fault)
  /-- The session did not take the record. -/
  | refused {s₁ : State ρ} {fed : ρ} {earlier : Bytes} {length : Nat} {e : EngineError}
      (delivered : deliver P s room = (s₁, .ok earlier))
      (pending : s₁.pending = 0) (peer : s₁.peerClosed = false)
      (whole : Record.completeLength source = .ok (some length))
      (failed : feed P s₁.session (source.take length) = (fed, .error e)) :
      UnwrapFailed P s source room ⟨{ s₁ with session := fed }, earlier, .error e⟩ e
  /-- The session did not accept the record. -/
  | unprocessed {s₁ : State ρ} {fed processed : ρ} {earlier : Bytes} {length : Nat}
      {fault : ProtocolError}
      (delivered : deliver P s room = (s₁, .ok earlier))
      (pending : s₁.pending = 0) (peer : s₁.peerClosed = false)
      (whole : Record.completeLength source = .ok (some length))
      (taken : feed P s₁.session (source.take length) = (fed, .ok ()))
      (failed : P.process fed = (processed, .error fault)) :
      UnwrapFailed P s source room
        ⟨{ s₁ with session := processed }, earlier, .error (.protocol fault)⟩ (.protocol fault)
  /-- Plaintext of the record was not handed out. -/
  | undelivered {s₁ s₂ : State ρ} {fed processed : ρ} {earlier : Bytes} {length : Nat}
      {progress : Progress} {e : EngineError}
      (delivered : deliver P s room = (s₁, .ok earlier))
      (pending : s₁.pending = 0) (peer : s₁.peerClosed = false)
      (whole : Record.completeLength source = .ok (some length))
      (taken : feed P s₁.session (source.take length) = (fed, .ok ()))
      (handled : P.process fed = (processed, .ok progress))
      (failed : deliver P ⟨processed, progress.plaintext, progress.peerClosed⟩
        (room - earlier.length) = (s₂, .error e)) :
      UnwrapFailed P s source room ⟨s₂, earlier, .error e⟩ e

/-- There are no other ways. -/
theorem unwrap_cases (P : Provider ρ) (s : State ρ) (source : Bytes) (room : Nat) :
    (∃ r, (unwrap P s source room).report = .ok r ∧
      UnwrapOk P s source room (unwrap P s source room) r) ∨
    ∃ e, (unwrap P s source room).report = .error e ∧
      UnwrapFailed P s source room (unwrap P s source room) e := by
  rw [unwrap]
  rcases hdeliver : deliver P s room with ⟨s₁, e | earlier⟩ <;> simp only
  · exact .inr ⟨e, rfl, .unread hdeliver⟩
  by_cases hpending : 0 < s₁.pending
  · rw [if_pos hpending]
    exact .inl ⟨_, rfl, .handedOut hdeliver (.overflow hpending)⟩
  rw [if_neg hpending]
  have hnone : s₁.pending = 0 := Nat.eq_zero_of_not_pos hpending
  by_cases hclosed : s₁.peerClosed = true
  · rw [if_pos hclosed]
    exact .inl ⟨_, rfl, .handedOut hdeliver (.closed hnone hclosed)⟩
  rw [if_neg hclosed]
  have hopen : s₁.peerClosed = false := Bool.eq_false_iff.mpr hclosed
  rcases hwhole : Record.completeLength source with fault | _ | length <;> simp only
  · exact .inr ⟨_, rfl, .rejected hdeliver hnone hopen hwhole⟩
  · exact .inl ⟨_, rfl, .handedOut hdeliver (.underflow hnone hopen hwhole)⟩
  rw [openRecord]
  rcases htaken : feed P s₁.session (source.take length) with ⟨fed, e | _⟩ <;> simp only
  · exact .inr ⟨e, rfl, .refused hdeliver hnone hopen hwhole htaken⟩
  rcases hhandled : P.process fed with ⟨processed, fault | progress⟩ <;> simp only
  · exact .inr ⟨_, rfl, .unprocessed hdeliver hnone hopen hwhole htaken hhandled⟩
  rcases hdeliver' : deliver P ⟨processed, progress.plaintext, progress.peerClosed⟩
    (room - earlier.length) with ⟨s₂, e | later⟩ <;> simp only
  · exact .inr ⟨e, rfl, .undelivered hdeliver hnone hopen hwhole htaken hhandled hdeliver'⟩
  · exact .inl ⟨_, rfl, .opened hdeliver hnone hopen hwhole htaken hhandled hdeliver'⟩

theorem unwrap_ok {s : State ρ} {source : Bytes} {room : Nat} {r : Report}
    (h : (unwrap P s source room).report = .ok r) :
    UnwrapOk P s source room (unwrap P s source room) r :=
  ok_of_ways (unwrap_cases P s source room) h

theorem unwrap_failed {s : State ρ} {source : Bytes} {room : Nat} {e : EngineError}
    (h : (unwrap P s source room).report = .error e) :
    UnwrapFailed P s source room (unwrap P s source room) e :=
  failed_of_ways (unwrap_cases P s source room) h

/-- With a header that is not accepted, what waits is handed out before it is looked at. Only when
nothing is left, and the peer has not closed, does it make the call fail. -/
theorem unwrap_rejected {s left : State ρ} {source : Bytes} {fault : ProtocolError}
    (hrejected : Record.completeLength source = .error fault) {room : Nat} {bs : Bytes}
    (hdeliver : deliver P s room = (left, .ok bs)) :
    unwrap P s source room = ⟨left, bs,
      if 0 < left.pending then .ok ⟨.overflow, 0, bs.length⟩
      else if left.peerClosed then .ok ⟨.closed, 0, bs.length⟩
      else .error (.protocol fault)⟩ := by
  simp only [unwrap, hdeliver, hrejected]
  split
  · rfl
  · split <;> rfl

/-- Only plaintext that waits and the end of the peer's data keep an opened record from a plain
success. -/
theorem waits_of_unwrapStatus {s : State ρ} (h : unwrapStatus s ≠ .ok) :
    0 < s.pending ∨ s.peerClosed = true := by
  rw [unwrapStatus] at h
  split at h
  · next hpending => exact .inl hpending
  · split at h
    · next hclosed => exact .inr hclosed
    · exact absurd rfl h

/-- A record that was opened is the front of the source, and had a header at least. -/
theorem length_opened {source : Bytes} {length : Nat}
    (h : Record.completeLength source = .ok (some length)) :
    (source.take length).length = length ∧ 0 < length ∧ length ≤ source.length := by
  obtain ⟨hdeclared, hwhole⟩ := Record.declared?_of_completeLength h
  have hheader : 5 ≤ length := Record.headerLength_le_of_declared hdeclared
  exact ⟨List.length_take_of_le hwhole, by omega, hwhole⟩

/-- Either a record was used up, or some plaintext was unless there was no room for it. -/
theorem UnwrapOk.progress {s : State ρ} {source : Bytes} {room : Nat} {a : Answer (State ρ)}
    {r : Report} (h : UnwrapOk P s source room a r) :
    (0 < r.consumed ∧ r.consumed ≤ source.length) ∨
      (r.consumed = 0 ∧ r.status ≠ .ok ∧ (r.status = .overflow →
        a.engine.pending ≤ s.pending ∧ (0 < room → a.engine.pending < s.pending))) := by
  cases h with
  | handedOut delivered stops =>
    obtain ⟨-, hle, hless⟩ := deliver_progress delivered
    exact .inr ⟨rfl, stops.ne_ok,
      fun hoverflow => ⟨hle, fun hroom => hless hroom (stops.overflow_iff.mp hoverflow)⟩⟩
  | opened delivered pending peer whole =>
    obtain ⟨hlength, hbounds⟩ := length_opened whole
    rw [hlength]
    exact .inl hbounds

/-- The counts are those of what was written, and stay inside the regions. -/
theorem UnwrapOk.counts {s : State ρ} {source : Bytes} {room : Nat} {a : Answer (State ρ)}
    {r : Report} (h : UnwrapOk P s source room a r) :
    r.consumed ≤ source.length ∧ r.produced = a.written.length ∧ a.written.length ≤ room := by
  cases h with
  | handedOut delivered => exact ⟨Nat.zero_le _, rfl, (deliver_progress delivered).1⟩
  | opened delivered pending peer whole taken handled delivered' =>
    have hearlier := (deliver_progress delivered).1
    have hlater := (deliver_progress delivered').1
    refine ⟨List.length_take_le' _ _, List.length_append.symm, ?_⟩
    rw [List.length_append]
    omega

theorem honest_unwrap (P : Provider ρ) (s : State ρ) (source : Bytes) (room : Nat) :
    Transfer.Honest (unwrap P s source room) source room :=
  fun _ hreport => (unwrap_ok hreport).counts

/-! ### Wraps -/

/-- The ways of a wrap that succeeds. -/
inductive WrapOk (P : Provider ρ) (s : State ρ) (source : Bytes) (room : Nat) :
    Answer (State ρ) → Report → Prop
  /-- There was nothing to do. -/
  | idle (unwanted : P.wantsWrite s.session ≠ true) :
      WrapOk P s source room ⟨s, [], .ok ⟨.ok, 0, 0⟩⟩ ⟨.ok, 0, 0⟩
  /-- Output that had waited was flushed. -/
  | flushed (wanted : P.wantsWrite s.session = true)
      (smooth : (flush P s.session room).failure = none) :
      WrapOk P s source room
        ⟨{ s with session := (flush P s.session room).session }, (flush P s.session room).written,
          .ok ⟨flushStatus P (flush P s.session room).session, 0,
            (flush P s.session room).written.length⟩⟩
        ⟨flushStatus P (flush P s.session room).session, 0,
          (flush P s.session room).written.length⟩
  /-- Plaintext was taken, and the output for it flushed. -/
  | wrote {session : ρ} {count : Nat} (unwanted : P.wantsWrite s.session ≠ true)
      (established : P.isHandshaking s.session = false)
      (taken : P.writePlaintext s.session source = (session, .ok count))
      (smooth : (flush P session room).failure = none) :
      WrapOk P s source room
        ⟨{ s with session := (flush P session room).session }, (flush P session room).written,
          .ok ⟨flushStatus P (flush P session room).session, count,
            (flush P session room).written.length⟩⟩
        ⟨flushStatus P (flush P session room).session, count, (flush P session room).written.length⟩

/-- The ways of a wrap that fails. -/
inductive WrapFailed (P : Provider ρ) (s : State ρ) (source : Bytes) (room : Nat) :
    Answer (State ρ) → EngineError → Prop
  /-- Output that had waited was not flushed to the end. -/
  | unflushed {e : EngineError} (wanted : P.wantsWrite s.session = true)
      (failed : (flush P s.session room).failure = some e) :
      WrapFailed P s source room
        ⟨{ s with session := (flush P s.session room).session }, (flush P s.session room).written,
          .error e⟩ e
  /-- The session did not take the plaintext. -/
  | refused {session : ρ} {text : String} (unwanted : P.wantsWrite s.session ≠ true)
      (failed : P.writePlaintext s.session source = (session, .error text)) :
      WrapFailed P s source room ⟨{ s with session }, [], .error (.io text)⟩ (.io text)
  /-- The output for the plaintext was not flushed to the end. -/
  | unsent {session : ρ} {count : Nat} {e : EngineError}
      (unwanted : P.wantsWrite s.session ≠ true)
      (taken : P.writePlaintext s.session source = (session, .ok count))
      (failed : (flush P session room).failure = some e) :
      WrapFailed P s source room
        ⟨{ s with session := (flush P session room).session }, (flush P session room).written,
          .error e⟩ e

theorem finishWrap_of_smooth {s : State ρ} {room : Nat}
    (h : (flush P s.session room).failure = none) (count : Nat) :
    finishWrap P s room count =
      ⟨{ s with session := (flush P s.session room).session }, (flush P s.session room).written,
        .ok ⟨flushStatus P (flush P s.session room).session, count,
          (flush P s.session room).written.length⟩⟩ := by
  simp only [finishWrap, h]

theorem finishWrap_of_failure {s : State ρ} {room : Nat} {e : EngineError}
    (h : (flush P s.session room).failure = some e) (count : Nat) :
    finishWrap P s room count =
      ⟨{ s with session := (flush P s.session room).session }, (flush P s.session room).written,
        .error e⟩ := by
  simp only [finishWrap, h]

/-- There are no other ways. -/
theorem wrap_cases (P : Provider ρ) (s : State ρ) (source : Bytes) (room : Nat) :
    (∃ r, (wrap P s source room).report = .ok r ∧
      WrapOk P s source room (wrap P s source room) r) ∨
    ∃ e, (wrap P s source room).report = .error e ∧
      WrapFailed P s source room (wrap P s source room) e := by
  rw [wrap]
  by_cases hwanted : P.wantsWrite s.session = true
  · rw [if_pos hwanted]
    cases hflush : (flush P s.session room).failure with
    | none =>
      rw [finishWrap_of_smooth hflush]
      exact .inl ⟨_, rfl, .flushed hwanted hflush⟩
    | some e =>
      rw [finishWrap_of_failure hflush]
      exact .inr ⟨e, rfl, .unflushed hwanted hflush⟩
  rw [if_neg hwanted]
  split
  · exact .inl ⟨_, rfl, .idle hwanted⟩
  next hbusy =>
  have hestablished : P.isHandshaking s.session = false :=
    Bool.eq_false_iff.mpr (not_or.mp hbusy).1
  rcases htaken : P.writePlaintext s.session source with ⟨session, text | count⟩ <;> simp only
  · exact .inr ⟨_, rfl, .refused hwanted htaken⟩
  cases hflush : (flush P session room).failure with
  | none =>
    rw [finishWrap_of_smooth (s := { s with session }) hflush]
    exact .inl ⟨_, rfl, .wrote hwanted hestablished htaken hflush⟩
  | some e =>
    rw [finishWrap_of_failure (s := { s with session }) hflush]
    exact .inr ⟨e, rfl, .unsent hwanted htaken hflush⟩

theorem wrap_ok {s : State ρ} {source : Bytes} {room : Nat} {r : Report}
    (h : (wrap P s source room).report = .ok r) :
    WrapOk P s source room (wrap P s source room) r :=
  ok_of_ways (wrap_cases P s source room) h

theorem wrap_failed {s : State ρ} {source : Bytes} {room : Nat} {e : EngineError}
    (h : (wrap P s source room).report = .error e) :
    WrapFailed P s source room (wrap P s source room) e :=
  failed_of_ways (wrap_cases P s source room) h

/-- What was written is counted, and stays inside the region. -/
theorem WrapOk.produced {s : State ρ} {source : Bytes} {room : Nat} {a : Answer (State ρ)}
    {r : Report} (h : WrapOk P s source room a r) :
    r.produced = a.written.length ∧ a.written.length ≤ room := by
  cases h with
  | idle unwanted => exact ⟨rfl, Nat.zero_le _⟩
  | flushed wanted smooth => exact ⟨rfl, length_flush_le P _ _⟩
  | wrote unwanted established taken smooth => exact ⟨rfl, length_flush_le P _ _⟩

/-- A wrap overflows if it has left some output. -/
theorem WrapOk.wanted_iff {s : State ρ} {source : Bytes} {room : Nat} {a : Answer (State ρ)}
    {r : Report} (h : WrapOk P s source room a r) :
    r.status = .overflow ↔ P.wantsWrite a.engine.session = true := by
  cases h with
  | idle unwanted => exact iff_of_false nofun unwanted
  | flushed wanted smooth => exact flushStatus_eq_overflow P _
  | wrote unwanted established taken smooth => exact flushStatus_eq_overflow P _

/-- A wrap leaves it to the peer to close. -/
theorem peerClosed_wrap (s : State ρ) (source : Bytes) (room : Nat) :
    (wrap P s source room).engine.peerClosed = s.peerClosed := by
  have hways := wrap_cases P s source room
  generalize wrap P s source room = a at hways ⊢
  rcases hways with ⟨r, -, hok⟩ | ⟨e, -, hfailed⟩
  · cases hok <;> rfl
  · cases hfailed <;> rfl

end RecordLayer.Tls
