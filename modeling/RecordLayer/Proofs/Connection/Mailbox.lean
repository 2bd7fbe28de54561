import Mathlib.Data.List.DropRight
import RecordLayer.Engine.Scripted
import RecordLayer.Proofs.Connection.Conservation

/-!
# What wraps take as plaintext

Two operations make wraps. An extraction wraps the mailbox, so it takes what was written last, in
order and each byte once. A read wraps from its scratch buffer on behalf of the handshake, and that
buffer is being filled: its region is the room that is still free, not what it holds.

* `lastWritten` and `sinceWrite` are the last payload and what happened after it;
* `MailboxIntact` is the account of the payload: what extractions took of it, and what is left;
* `mailbox_suffix`: the mailbox holds the last payload less what extractions since have taken, and
  that is what they are offered;
* `wraps_take_written`: as long as the wraps of reads take nothing, wraps take a prefix of the
  payload;
* `scratch_room_taken`: an engine that takes what such a wrap offers sends bytes that nobody wrote.
-/

namespace RecordLayer.Connection

variable {σ : Type}

def Command.isWrite : Command → Bool
  | .write _ => true
  | _ => false

/-- The last payload that was written, empty before the first. -/
def lastWritten (commands : List Command) : Bytes :=
  commands.foldl (fun last command =>
    match command with
    | .write bs => bs
    | _ => last) []

/-- What happened after the last write. -/
def sinceWrite (past : Past σ) : Past σ :=
  past.rtakeWhile fun p => !p.1.isWrite

/-- The engine calls that one kind of command made. -/
def made (command : Command) (past : Past σ) : List Call :=
  traced (past.filter (·.1 = command))

theorem lastWritten_concat_write (commands : List Command) (bs : Bytes) :
    lastWritten (commands ++ [.write bs]) = bs := by
  simp only [lastWritten, List.foldl_append, List.foldl_cons, List.foldl_nil]

theorem lastWritten_concat_other (commands : List Command) {command : Command}
    (h : command.isWrite = false) : lastWritten (commands ++ [command]) = lastWritten commands := by
  cases command with
  | write bs => cases h
  | _ => simp only [lastWritten, List.foldl_append, List.foldl_cons, List.foldl_nil]

section

variable (past : Past σ) (command : Command) (s : Step σ)

theorem sinceWrite_concat_write (bs : Bytes) : sinceWrite (past ++ [(.write bs, s)]) = [] :=
  List.rtakeWhile_concat_neg _ _ _ (by simp [Command.isWrite])

theorem sinceWrite_concat_other (h : command.isWrite = false) :
    sinceWrite (past ++ [(command, s)]) = sinceWrite past ++ [(command, s)] :=
  List.rtakeWhile_concat_pos _ _ _ (by simp [h])

theorem made_concat_self :
    made command (past ++ [(command, s)]) = made command past ++ calls s.events := by
  simp [made, traced]

theorem made_concat_ne {other : Command} (h : command ≠ other) :
    made other (past ++ [(command, s)]) = made other past := by
  simp [made, h]

end

/-! ### The mailbox -/

/-- Extracting empties the mailbox and writing fills it; nothing else touches it. -/
theorem mailbox_step_idle (E : Engine σ) (budget : Nat) {c : Connection σ} (h : c.WellFormed)
    {command : Command} (hextract : command ≠ .extract) (hwrite : command.isWrite = false) :
    (c.step E budget command).connection.mailbox = c.mailbox := by
  cases command with
  | extract => exact absurd rfl hextract
  | write bs => cases hwrite
  | read => exact (read_moved E budget h).mailbox
  | inject bs => rfl
  | peerCertificate => rfl
  | handshakeStatus => rfl
  | shutdown => rfl
  | isInitializing => rfl
  | describe => rfl

/-- What extractions took of the last payload, and after it what is in the mailbox, is the
payload. -/
def MailboxIntact (commands : List Command) (past : Past σ) (c : Connection σ) : Prop :=
  consumed .wrap (made .extract (sinceWrite past)) ++ c.mailbox.region = lastWritten commands

theorem mailboxIntact_step (E : Engine σ) (budget : Nat) {commands : List Command} {past : Past σ}
    {c : Connection σ} (h : c.WellFormed) (hintact : MailboxIntact commands past c)
    (command : Command) :
    MailboxIntact (commands ++ [command]) (past ++ [(command, c.step E budget command)])
      (c.step E budget command).connection := by
  rw [MailboxIntact] at hintact ⊢
  cases hwrite : command.isWrite with
  | true =>
    cases command with
    | write bs =>
      rw [sinceWrite_concat_write, lastWritten_concat_write]
      exact Buffer.region_ofBytes bs
    | _ => cases hwrite
  | false =>
    rw [sinceWrite_concat_other _ _ _ hwrite, lastWritten_concat_other _ hwrite, ← hintact]
    obtain rfl | hextract := eq_or_ne command .extract
    · have hmailbox := (extract_moved E budget h).mailbox.region
      rw [made_concat_self, consumed_append, List.append_assoc, hmailbox]
      rfl
    · rw [made_concat_ne _ _ _ hextract, mailbox_step_idle E budget h hextract hwrite]

theorem mailboxIntact_after (E : Engine σ) (budget : Nat) (s : σ) (commands : List Command) :
    MailboxIntact commands (performed E budget (new E s) commands)
      (after E budget (new E s) commands) := by
  refine (performed_invariant E budget (new E s)
    (motive := fun commands past c => c.WellFormed ∧ MailboxIntact commands past c)
    ⟨wellFormed_new E s, ?_⟩ ?_ commands).2
  · show [] ++ ((Buffer.withCapacity _).flip).region = []
    rw [Buffer.region_flip, Buffer.held_withCapacity, List.append_nil]
  · rintro commands past c command ⟨hwf, hintact⟩
    exact ⟨wellFormed_step E budget hwf command, mailboxIntact_step E budget hwf hintact command⟩

/-- What is left in the mailbox is the last payload without the bytes that extractions since have
reported as consumed, and every wrap of the next extraction, also after an overflow, is offered just
what is left at that time. Nothing but a write or an extraction changes the mailbox. -/
theorem mailbox_suffix (E : Engine σ) (budget : Nat) (s : σ) (commands : List Command) :
    let past := performed E budget (new E s) commands
    let c := after E budget (new E s) commands
    let spent := taken .wrap (made .extract (sinceWrite past))
    spent ≤ (lastWritten commands).length ∧
      c.mailbox.region = (lastWritten commands).drop spent ∧
      consumed .wrap (made .extract (sinceWrite past)) = (lastWritten commands).take spent ∧
      (∀ earlier call later, calls (c.step E budget .extract).events = earlier ++ call :: later →
        call.direction = .wrap ∧
          call.source = (lastWritten commands).drop (spent + taken .wrap earlier)) ∧
      ∀ command : Command, command ≠ .extract → command.isWrite = false →
        (c.step E budget command).connection.mailbox = c.mailbox := by
  intro past c spent
  have hintact : MailboxIntact commands past c := mailboxIntact_after E budget s commands
  have hwf : c.WellFormed := wellFormed_after E budget (wellFormed_new E s) commands
  have hspent : (consumed .wrap (made .extract (sinceWrite past))).length = spent :=
    length_consumed _ _
  rw [MailboxIntact] at hintact
  have hregion : c.mailbox.region = (lastWritten commands).drop spent := by
    rw [← hintact, ← hspent, List.drop_left]
  refine ⟨?_, hregion, ?_, ?_, fun command => mailbox_step_idle E budget hwf⟩
  · rw [← hintact, ← hspent, List.length_append]
    exact Nat.le_add_right _ _
  · rw [← hintact, ← hspent, List.take_left]
  · intro earlier call later hsplit
    have hm := extract_moved E budget hwf
    have hwrap : call.direction = .wrap :=
      hm.directed call (hsplit ▸ List.mem_append_right _ List.mem_cons_self)
    refine ⟨hwrap, ?_⟩
    rw [hm.readsFrom earlier call later hsplit hwrap, hregion, List.drop_drop, length_consumed]

/-- The first payload is replaced when one byte of it is gone. Of the second, an extraction takes a
byte before it fails; what it produced comes out next. The extraction after that is offered what is
left of the payload, and less after an overflow. -/
theorem mailbox_suffix_replaced :
    let script : Scripted :=
      { wraps := [.give .ok (some 1) (.bytes [9]), .give .overflow (some 1) (.bytes [9]),
          .fail (.io "connection reset"), .give .overflow (some 1) (.bytes [9]),
          .give .ok (some 2) (.bytes [9, 9])] }
    let commands : List Command := [.write [1, 2, 3], .extract, .write [4, 5, 6, 7], .extract,
      .inject [170], .read, .extract]
    let past := performed Scripted.engine 9 (new Scripted.engine script) commands
    let c := after Scripted.engine 9 (new Scripted.engine script) commands
    taken .wrap (made .extract (sinceWrite past)) = 1 ∧
      consumed .wrap (made .extract (sinceWrite past)) = [4] ∧
      c.mailbox.region = [5, 6, 7] ∧
      (c.step Scripted.engine 9 .read).connection.mailbox.region = [5, 6, 7] ∧
      ∃ first second, calls (c.step Scripted.engine 9 .extract).events = [first, second] ∧
        first.source = [5, 6, 7] ∧ second.source = [6, 7] := by
  intro script commands past c
  obtain ⟨-, hregion, hconsumed, hoffered, hidle⟩ :=
    mailbox_suffix Scripted.engine 9 script commands
  have hspent : taken .wrap (made .extract (sinceWrite past)) = 1 := by decide
  have htwo : (calls (c.step Scripted.engine 9 .extract).events).length = 2 := by decide
  obtain ⟨first, second, hcalls⟩ := List.length_eq_two.mp htwo
  have hfirst : taken .wrap [first] = 1 := by
    have hone : taken .wrap ((calls (c.step Scripted.engine 9 .extract).events).take 1) = 1 := by
      decide
    rw [hcalls] at hone
    exact hone
  refine ⟨hspent, ?_, ?_, ?_, first, second, hcalls, ?_, ?_⟩
  · rw [hconsumed, hspent]
    rfl
  · rw [hregion, hspent]
    rfl
  · rw [hidle .read (by decide) rfl, hregion, hspent]
    rfl
  · rw [(hoffered [] first [second] hcalls).2, hspent]
    rfl
  · rw [(hoffered [first] second [] hcalls).2, hspent, hfirst]
    rfl

/-! ### All wraps -/

/-- Only reads and extractions made calls. -/
def Quiet (past : Past σ) : Prop :=
  ∀ p ∈ past, p.1 ≠ .read → p.1 ≠ .extract → calls p.2.events = []

theorem quiet_performed (E : Engine σ) (budget : Nat) (c : Connection σ) (commands : List Command) :
    Quiet (performed E budget c commands) := by
  intro p hp hread hextract
  obtain ⟨earlier, later, -, hstep⟩ := mem_performed hp
  rw [hstep]
  exact calls_step_idle E budget _ hread hextract

theorem consumed_wrap_traced {past : Past σ} (hquiet : Quiet past)
    (hreads : WrapsTakeNothing (made .read past)) :
    consumed .wrap (traced past) = consumed .wrap (made .extract past) := by
  induction past using List.reverseRecOn with
  | nil => rfl
  | append_singleton past p ih =>
    obtain ⟨command, s⟩ := p
    rw [Quiet, List.forall_mem_append, List.forall_mem_singleton] at hquiet
    rw [traced_concat, consumed_append]
    obtain rfl | hextract := eq_or_ne command .extract
    · rw [made_concat_ne _ _ _ (by decide)] at hreads
      rw [made_concat_self, consumed_append, ih hquiet.1 hreads]
    · rw [made_concat_ne _ _ _ hextract]
      obtain rfl | hread := eq_or_ne command .read
      · rw [made_concat_self, WrapsTakeNothing, List.forall_mem_append] at hreads
        have hlast : consumed .wrap (calls s.events) = [] :=
          WrapsTakeNothing.consumed_eq_nil hreads.2
        rw [hlast, List.append_nil, ih hquiet.1 hreads.1]
      · rw [made_concat_ne _ _ _ hread] at hreads
        rw [hquiet.2 hread hextract, consumed_nil, List.append_nil, ih hquiet.1 hreads]

/-- Extractions take the last payload from its front, each byte once, and a wrap of the next
extraction is offered exactly what the ones before it have left. As long as the wraps that reads
make take nothing, nothing else is ever taken: what all wraps since a write took is a prefix of the
payload. -/
theorem wraps_take_written (E : Engine σ) (budget : Nat) (s : σ) (commands : List Command) :
    let past := performed E budget (new E s) commands
    let c := after E budget (new E s) commands
    consumed .wrap (made .extract (sinceWrite past)) ++ c.mailbox.region = lastWritten commands ∧
      (∀ earlier call later, calls (c.step E budget .extract).events = earlier ++ call :: later →
        call.direction = .wrap ∧ call.source = (lastWritten commands).drop
          (consumed .wrap (made .extract (sinceWrite past) ++ earlier)).length) ∧
      (WrapsTakeNothing (made .read (sinceWrite past)) →
        consumed .wrap (traced (sinceWrite past)) <+: lastWritten commands) := by
  intro past c
  have hintact : MailboxIntact commands past c := mailboxIntact_after E budget s commands
  have hwf : c.WellFormed := wellFormed_after E budget (wellFormed_new E s) commands
  have hquiet : Quiet (sinceWrite past) := fun p hp =>
    quiet_performed E budget (new E s) commands p ((List.rtakeWhile_suffix _ _).subset hp)
  rw [MailboxIntact] at hintact
  refine ⟨hintact, ?_, ?_⟩
  · intro earlier call later hsplit
    have hm := extract_moved E budget hwf
    have hwrap : call.direction = .wrap :=
      hm.directed call (hsplit ▸ List.mem_append_right _ List.mem_cons_self)
    refine ⟨hwrap, ?_⟩
    rw [hm.readsFrom earlier call later hsplit hwrap, consumed_append, List.length_append,
      ← List.drop_drop, ← hintact, List.drop_left]
  · intro hreads
    rw [consumed_wrap_traced hquiet hreads, ← hintact]
    exact List.prefix_append _ _

/-- A read makes a wrap that takes nothing, an extraction takes two of three bytes, and the next one
is offered the third. -/
theorem wraps_take_written_partly :
    let script : Scripted :=
      { stepping := true
        statuses := [.needUnwrap, .needWrap]
        unwraps := [.give .ok (some 1) (.repeated 0)]
        wraps := [.give .ok (some 0) (.repeated 3), .echo 0 (some 2) none] }
    let commands : List Command := [.write [9], .write [1, 2, 3], .inject [170], .read, .extract,
      .extract]
    let past := performed Scripted.engine 9 (new Scripted.engine script) commands
    let c := after Scripted.engine 9 (new Scripted.engine script) commands
    (made .read (sinceWrite past)).map (·.direction) = [.unwrap, .wrap] ∧
      WrapsTakeNothing (made .read (sinceWrite past)) ∧
      consumed .wrap (traced (sinceWrite past)) = [1, 2] ∧
      consumed .wrap (traced (sinceWrite past)) <+: [1, 2, 3] ∧
      ∃ call, calls (c.step Scripted.engine 9 .extract).events = [call] ∧ call.source = [3] := by
  intro script commands past c
  obtain ⟨-, hoffered, htaken⟩ := wraps_take_written Scripted.engine 9 script commands
  have hreads : WrapsTakeNothing (made .read (sinceWrite past)) := by decide
  have hone : (calls (c.step Scripted.engine 9 .extract).events).length = 1 := by decide
  obtain ⟨call, hcall⟩ := List.length_eq_one_iff.mp hone
  exact ⟨by decide, hreads, by decide, htaken hreads, call, hcall,
    (hoffered [] call [] hcall).2.trans (by decide)⟩

/-- All counts are true and nothing was ever written, but the four bytes of room in the scratch
buffer are taken by a wrap, sent to the network and returned as plaintext. -/
theorem scratch_room_taken :
    let script : Scripted :=
      { application := 4
        stepping := true
        statuses := [.needUnwrap, .needWrap]
        unwraps := [.give .ok (some 1) (.repeated 0)]
        wraps := [.echo 0 none none] }
    let commands : List Command := [.inject [170], .read, .extract]
    let past := performed Scripted.engine 9 (new Scripted.engine script) commands
    (traced past).all (fun call => call.accepted?.isSome) = true ∧
      lastWritten commands = [] ∧
      consumed .wrap (traced (sinceWrite past)) = [0, 0, 0, 0] ∧
      payloads .read past = [0, 0, 0, 0] ∧
      payloads .extract past = [0, 0, 0, 0] := by
  decide

end RecordLayer.Connection
