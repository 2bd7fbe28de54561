import RecordLayer.Engine.Scripted
import RecordLayer.Proofs.Connection.Flow
import RecordLayer.Proofs.Connection.History

/-!
# Conservation of ciphertext

No byte of ciphertext is lost, repeated or moved out of its order on its way through a connection,
whatever the engine does and however the operations are mixed.

* `outbound_conserved`: what was extracted and what is still pending is what wraps produced;
* `inbound_fifo`: as long as no read fails, unwraps are given what was injected, from where the
  unwraps before them stopped.
-/

namespace RecordLayer.Connection

variable {σ : Type}

theorem payload_ofOutcome (o : Outcome (Connection σ) Error (Option Bytes)) :
    (Step.ofOutcome o .payload).payload = given o.verdict := by
  rcases o with ⟨state, events, verdict⟩
  rcases verdict with (_ | bs) | e | _ <;> rfl

theorem done_of_returned {o : Outcome (Connection σ) Error (Option Bytes)}
    (h : (Step.ofOutcome o .payload).returned = true) : ∃ payload, o.verdict = .done payload := by
  rcases o with ⟨state, events, verdict⟩
  cases verdict with
  | done payload => exact ⟨payload, rfl⟩
  | failed e => cases h
  | unfinished => cases h

theorem done_of_succeeded {o : Outcome (Connection σ) Error (Option Bytes)}
    (h : (Step.ofOutcome o .payload).succeeded = true) : ∃ payload, o.verdict = .done payload := by
  rcases o with ⟨state, events, verdict⟩
  cases verdict with
  | done payload => exact ⟨payload, rfl⟩
  | failed e => cases h
  | unfinished => cases h

theorem verdict_of_reply {o : Outcome (Connection σ) Error (Option Bytes)} {payload : Option Bytes}
    (h : (Step.ofOutcome o .payload).reply = .payload payload) : o.verdict = .done payload := by
  rcases o with ⟨state, events, verdict⟩
  cases verdict with
  | done payload' =>
    cases h
    rfl
  | failed e => cases h
  | unfinished => cases h

theorem failed_of_reply {o : Outcome (Connection σ) Error (Option Bytes)} {error : Error}
    (h : (Step.ofOutcome o .payload).reply = .failed error) : o.verdict = .failed error := by
  rcases o with ⟨state, events, verdict⟩
  cases verdict with
  | done payload => cases h
  | failed e =>
    cases h
    rfl
  | unfinished => cases h

theorem wellFormed_step (E : Engine σ) (budget : Nat) {c : Connection σ} (h : c.WellFormed)
    (command : Command) : (c.step E budget command).connection.WellFormed := by
  cases command with
  | inject bs => exact wellFormed_inject h bs
  | read => exact (read_moved E budget h).wellFormed
  | write bs => exact wellFormed_write h bs
  | extract => exact (extract_moved E budget h).wellFormed
  | peerCertificate => exact h
  | handshakeStatus => exact h
  | shutdown => exact h
  | isInitializing => exact h
  | describe => exact h

theorem wellFormed_after (E : Engine σ) (budget : Nat) {c : Connection σ} (h : c.WellFormed)
    (commands : List Command) : (after E budget c commands).WellFormed :=
  performed_invariant E budget c (motive := fun _ _ c => c.WellFormed) h
    (fun _ _ _ command hc => wellFormed_step E budget hc command) commands

/-- Only reading and extracting work with the engine. -/
theorem step_idle (E : Engine σ) (budget : Nat) (c : Connection σ) {command : Command}
    (hread : command ≠ .read) (hextract : command ≠ .extract) :
    calls (c.step E budget command).events = [] ∧
      (c.step E budget command).connection.engine = c.engine ∧
      (c.step E budget command).connection.outbound = c.outbound := by
  cases command with
  | read => exact absurd rfl hread
  | extract => exact absurd rfl hextract
  | write bs =>
    refine ⟨?_, rfl, rfl⟩
    show calls (if c.mailbox.hasRemaining then _ else _) = []
    split <;> rfl
  | inject bs => exact ⟨rfl, rfl, rfl⟩
  | peerCertificate => exact ⟨rfl, rfl, rfl⟩
  | handshakeStatus => exact ⟨rfl, rfl, rfl⟩
  | shutdown => exact ⟨rfl, rfl, rfl⟩
  | isInitializing => exact ⟨rfl, rfl, rfl⟩
  | describe => exact ⟨rfl, rfl, rfl⟩

theorem calls_step_idle (E : Engine σ) (budget : Nat) (c : Connection σ) {command : Command}
    (hread : command ≠ .read) (hextract : command ≠ .extract) :
    calls (c.step E budget command).events = [] :=
  (step_idle E budget c hread hextract).1

theorem engine_step_idle (E : Engine σ) (budget : Nat) (c : Connection σ) {command : Command}
    (hread : command ≠ .read) (hextract : command ≠ .extract) :
    (c.step E budget command).connection.engine = c.engine :=
  (step_idle E budget c hread hextract).2.1

theorem outbound_step_idle (E : Engine σ) (budget : Nat) (c : Connection σ) {command : Command}
    (hread : command ≠ .read) (hextract : command ≠ .extract) :
    (c.step E budget command).connection.outbound = c.outbound :=
  (step_idle E budget c hread hextract).2.2

theorem inbound_step_idle (E : Engine σ) (budget : Nat) {c : Connection σ} (h : c.WellFormed)
    {command : Command} (hread : command ≠ .read) (hinject : ∀ bs, command ≠ .inject bs) :
    (c.step E budget command).connection.inbound = c.inbound := by
  cases command with
  | read => exact absurd rfl hread
  | inject bs => exact absurd rfl (hinject bs)
  | extract => exact (extract_moved E budget h).inbound
  | write bs => rfl
  | peerCertificate => rfl
  | handshakeStatus => rfl
  | shutdown => rfl
  | isInitializing => rfl
  | describe => rfl

/-! ### Outbound -/

/-- One command adds to what was extracted or is pending what its wraps produced. -/
theorem step_outbound (E : Engine σ) (budget : Nat) {c : Connection σ} (h : c.WellFormed)
    (past : Past σ) (command : Command) :
    payloads .extract (past ++ [(command, c.step E budget command)]) ++
        (c.step E budget command).connection.outbound.held =
      (payloads .extract past ++ c.outbound.held) ++
        produced .wrap (calls (c.step E budget command).events) := by
  rw [List.append_assoc]
  obtain rfl | hextract := eq_or_ne command .extract
  · rw [payloads_concat_self, List.append_assoc, step, payload_ofOutcome]
    exact congrArg _ (extract_moved E budget h).outbound
  · rw [payloads_concat_ne _ _ _ hextract]
    congr 1
    obtain rfl | hread := eq_or_ne command .read
    · exact (read_moved E budget h).outbound.held
    · rw [outbound_step_idle E budget c hread hextract, calls_step_idle E budget c hread hextract,
        produced_nil, List.append_nil]

/-- What was extracted, and after it what is still pending, is what all accepted wraps produced, in
the order of the calls. -/
theorem outbound_conserved (E : Engine σ) (budget : Nat) (s : σ) (commands : List Command) :
    payloads .extract (performed E budget (new E s) commands) ++
        (after E budget (new E s) commands).outbound.held =
      produced .wrap (traced (performed E budget (new E s) commands)) := by
  have hall := performed_invariant E budget (new E s)
    (motive := fun _ past c => c.WellFormed ∧
      payloads .extract past ++ c.outbound.held = produced .wrap (traced past))
    ⟨wellFormed_new E s, rfl⟩ ?_ commands
  · exact hall.2
  · rintro _ past c command ⟨h, hpast⟩
    refine ⟨wellFormed_step E budget h command, ?_⟩
    rw [step_outbound E budget h, hpast, traced_concat, produced_append]

/-! ### Inbound -/

/-- The injected bytes that unwraps have not consumed yet are what is held. -/
def InboundIntact (commands : List Command) (past : Past σ) (c : Connection σ) : Prop :=
  reported .unwrap (traced past) ≤ (injected commands).length ∧
    c.inbound.held = (injected commands).drop (reported .unwrap (traced past))

theorem inboundIntact_inject {commands : List Command} {past : Past σ} {c : Connection σ}
    (h : c.WellFormed) (hintact : InboundIntact commands past c) (E : Engine σ) (budget : Nat)
    (bs : Bytes) :
    InboundIntact (commands ++ [.inject bs]) (past ++ [(.inject bs, c.step E budget (.inject bs))])
      (c.inject bs) := by
  obtain ⟨hle, hheld⟩ := hintact
  have htraced : traced (past ++ [(.inject bs, c.step E budget (.inject bs))]) = traced past := by
    rw [traced_concat]
    exact List.append_nil _
  rw [InboundIntact, htraced, injected_concat_inject, List.length_append]
  refine ⟨by omega, ?_⟩
  rw [List.drop_append_of_le_length hle, ← hheld]
  exact Buffer.held_put h.inbound bs

theorem inboundIntact_read {commands : List Command} {past : Past σ} {c : Connection σ}
    (h : c.WellFormed) (hintact : InboundIntact commands past c) (E : Engine σ) (budget : Nat)
    (hreturned : (c.step E budget .read).returned = true) :
    InboundIntact (commands ++ [.read]) (past ++ [(.read, c.step E budget .read)])
      (c.step E budget .read).connection := by
  obtain ⟨hle, hheld⟩ := hintact
  have hm := read_moved E budget h
  obtain ⟨payload, hdone⟩ := done_of_returned hreturned
  have hcount := length_consumed_of_accepted (hm.accepted payload hdone) .unwrap
  have hwithin := hm.within
  rw [hcount, hheld, List.length_drop] at hwithin
  have hheld' := hm.inbound payload hdone
  rw [hcount, hheld, List.drop_drop] at hheld'
  rw [InboundIntact, traced_concat, reported_append, injected_concat_other .read commands (by simp)]
  refine ⟨?_, hheld'⟩
  show _ + reported .unwrap (calls (c.read E budget).events) ≤ _
  omega

/-- No command but a read makes an unwrap. -/
theorem directed_step (E : Engine σ) (budget : Nat) {c : Connection σ} (h : c.WellFormed)
    {command : Command} (hread : command ≠ .read) :
    Directed .wrap (calls (c.step E budget command).events) := by
  obtain rfl | hextract := eq_or_ne command .extract
  · exact (extract_moved E budget h).directed
  · rw [calls_step_idle E budget c hread hextract]
    exact nofun

theorem inboundIntact_other {commands : List Command} {past : Past σ} {c : Connection σ}
    (h : c.WellFormed) (hintact : InboundIntact commands past c) (E : Engine σ) (budget : Nat)
    {command : Command} (hread : command ≠ .read) (hinject : ∀ bs, command ≠ .inject bs) :
    InboundIntact (commands ++ [command]) (past ++ [(command, c.step E budget command)])
      (c.step E budget command).connection := by
  have hnone : reported .unwrap (calls (c.step E budget command).events) = 0 :=
    (directed_step E budget h hread).reported_ne (by decide)
  rw [InboundIntact, traced_concat, reported_append, hnone, injected_concat_other _ _ hinject,
    inbound_step_idle E budget h hread hinject]
  exact hintact

/-- While no read has failed, the inbound buffer holds what was injected less what unwraps reported
as consumed, and every unwrap of the next command is given what the unwraps before it have left. -/
theorem inbound_fifo (E : Engine σ) (budget : Nat) (s : σ) (commands : List Command)
    (h : ReadsReturn (performed E budget (new E s) commands)) :
    reported .unwrap (traced (performed E budget (new E s) commands)) ≤ (injected commands).length ∧
      (after E budget (new E s) commands).inbound.held = (injected commands).drop
        (reported .unwrap (traced (performed E budget (new E s) commands))) ∧
      ∀ (next : Command) (earlier : List Call) (call : Call) (later : List Call),
        calls ((after E budget (new E s) commands).step E budget next).events =
          earlier ++ call :: later →
        call.direction = .unwrap →
        call.source = (injected commands).drop
          (reported .unwrap (traced (performed E budget (new E s) commands) ++ earlier)) := by
  have hall := performed_invariant E budget (new E s)
    (motive := fun commands past c =>
      c.WellFormed ∧ (ReadsReturn past → InboundIntact commands past c))
    ⟨wellFormed_new E s, fun _ => ⟨Nat.zero_le _, rfl⟩⟩ ?_ commands
  · obtain ⟨hwf, hintact⟩ := hall
    refine ⟨(hintact h).1, (hintact h).2, ?_⟩
    intro next earlier call later hsplit hunwrap
    obtain rfl | hread := eq_or_ne next .read
    · have hm := read_moved E budget hwf
      rw [hm.readsFrom earlier call later hsplit hunwrap, (hintact h).2, List.drop_drop,
        reported_append,
        length_consumed_of_accepted (hm.acceptedBefore earlier call later hsplit)]
    · have hmem : call ∈ calls ((after E budget (new E s) commands).step E budget next).events := by
        rw [hsplit]
        exact List.mem_append_right _ List.mem_cons_self
      rw [directed_step E budget hwf hread call hmem] at hunwrap
      cases hunwrap
  · rintro commands past c command ⟨hwf, hintact⟩
    refine ⟨wellFormed_step E budget hwf command, fun hreturn => ?_⟩
    rw [readsReturn_concat] at hreturn
    have hpast := hintact hreturn.1
    obtain rfl | hread := eq_or_ne command .read
    · exact inboundIntact_read hwf hpast E budget (hreturn.2 rfl)
    · by_cases hinject : ∃ bs, command = .inject bs
      · obtain ⟨bs, rfl⟩ := hinject
        exact inboundIntact_inject hwf hpast E budget bs
      · exact inboundIntact_other hwf hpast E budget hread (not_exists.mp hinject)

/-- Six bytes come in two pieces, and the first read stops in the middle of what it was given. -/
theorem inbound_fifo_two_pieces :
    let script : Scripted := { unwraps := [.give .overflow (some 1) (.repeated 2),
      .give .ok (some 2) (.repeated 9), .give .ok (some 2) (.repeated 1)] }
    let commands : List Command := [.inject [1, 2, 3, 4], .read, .write [9], .inject [5, 6], .read]
    ReadsReturn (performed Scripted.engine 9 (new Scripted.engine script) commands) ∧
      (after Scripted.engine 9 (new Scripted.engine script) commands).inbound.held = [6] := by
  intro script commands
  have h : ReadsReturn (performed Scripted.engine 9 (new Scripted.engine script) commands) := by
    decide
  obtain ⟨-, hheld, -⟩ := inbound_fifo Scripted.engine 9 script commands h
  exact ⟨h, hheld.trans (by decide)⟩

end RecordLayer.Connection
