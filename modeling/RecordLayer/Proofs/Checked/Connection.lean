import RecordLayer.Proofs.Checked.Transfer
import RecordLayer.Proofs.Connection.Conservation

/-!
# Connections with every index checked

The commands of a connection over the checked operations, for whole histories.

* `Checked.history` performs commands and comes to nothing if a check fails on the way;
* `Fits` is what is asked of a history: the sizes of buffers, of payloads and of the limits that are
  set are numbers that a word can hold;
* `history_checks`: under no more than that, no check fails and every command leaves the connection
  and gives the reply that it does without checks.
-/

namespace RecordLayer

namespace Checked

variable {σ α : Type}

/-! ### Reading -/

def receive (E : Engine σ) (budget : Nat) (h : Handshake σ) :
    Option (Handshake σ × Verdict EngineError Unit) :=
  andThen (unwrap E budget h) fun h _ => drive E budget budget h

def settle (inbound : Buffer) : Option Buffer :=
  if inbound.hasRemaining then compact inbound else clear inbound

/-- The end of a read that has called the engine. -/
def closing (c : Connection σ) (h : Handshake σ) :
    Verdict EngineError Unit → Option (Connection σ × Verdict Error (Option Bytes))
  | .done _ => do
    let inbound ← settle h.inbound
    let (payload, _) ← drain h.scratch
    some ({ c with engine := h.engine, inbound, outbound := h.outbound }, .done payload)
  | .failed e =>
    some ({ c with engine := h.engine, inbound := h.inbound, outbound := h.outbound },
      .failed (.unexpectedEof e))
  | .unfinished =>
    some ({ c with engine := h.engine, inbound := h.inbound, outbound := h.outbound }, .unfinished)

/-- The engine reads from the inbound buffer itself. -/
def read (E : Engine σ) (budget : Nat) (c : Connection σ) :
    Option (Connection σ × Verdict Error (Option Bytes)) := do
  let inbound ← flip c.inbound
  if inbound.hasRemaining then
    let scratch := Buffer.withCapacity (E.applicationSize c.engine)
    let (h, verdict) ← receive E budget ⟨c.engine, inbound, scratch, c.outbound⟩
    closing c h verdict
  else
    let inbound ← clear inbound
    some ({ c with inbound }, .done none)

/-! ### Writing and extracting -/

/-- What is discarded is counted. -/
def write (c : Connection σ) (bs : Bytes) : Option (Connection σ × Verdict Error Nat) := do
  let _ ← if c.mailbox.hasRemaining then remaining c.mailbox else some 0
  some ({ c with mailbox := .ofBytes bs }, .done bs.length)

/-- The end of an extraction that has called the engine. -/
def closingWrap (c : Connection σ) (t : Transfer σ) :
    Verdict EngineError Report → Option (Connection σ × Verdict Error (Option Bytes))
  | .done _ => do
    let (pending, outbound) ← drain t.destination
    some ({ c with engine := t.engine, mailbox := t.source, outbound }, .done pending)
  | .failed e =>
    some ({ c with engine := t.engine, mailbox := t.source, outbound := t.destination },
      .failed (.connectionFailed e))
  | .unfinished =>
    some ({ c with engine := t.engine, mailbox := t.source, outbound := t.destination }, .unfinished)

def extract (E : Engine σ) (budget : Nat) (c : Connection σ) :
    Option (Connection σ × Verdict Error (Option Bytes)) := do
  let (pending, outbound) ← drain c.outbound
  if pending.isSome then
    some ({ c with outbound }, .done pending)
  else if c.mailbox.hasRemaining then
    let outbound ← clear outbound
    let (t, verdict) ← run E .wrap budget ⟨c.engine, c.mailbox, outbound⟩
    closingWrap c t verdict
  else
    some ({ c with outbound }, .done none)

/-! ### Commands -/

/-- The reply of an operation that may fail. -/
def told (reply : α → Connection.Reply) (x : Option (Connection σ × Verdict Error α)) :
    Option (Connection σ × Connection.Reply) := do
  let (c, verdict) ← x
  some (c, (Connection.Step.ofOutcome ⟨c, [], verdict⟩ reply).reply)

/-- The diagnostics count what is in the mailbox; the other queries touch no buffer. -/
def step (E : Engine σ) (budget : Nat) (c : Connection σ) :
    Connection.Command → Option (Connection σ × Connection.Reply)
  | .inject bs => do
    let inbound ← put c.inbound bs
    some ({ c with inbound }, .silent)
  | .read => told .payload (read E budget c)
  | .write bs => told .count (write c bs)
  | .extract => told .payload (extract E budget c)
  | .describe => do
    let _ ← remaining c.mailbox
    some (c, .text c.describe)
  | .peerCertificate => some (c, .certificate (c.peerCertificate E))
  | .handshakeStatus => some (c, .status (c.handshakeStatus E))
  | .shutdown => some (c, .flag true)
  | .isInitializing => some (c, .flag false)

def history (E : Engine σ) (budget : Nat) :
    Connection σ → List Connection.Command → Option (List (Connection σ × Connection.Reply))
  | _, [] => some []
  | c, command :: rest => do
    let first ← step E budget c command
    let others ← history E budget first.1 rest
    some (first :: others)

def new (E : Engine σ) (s : σ) : Option (Connection σ) := do
  let mailbox ← flip (.withCapacity (E.applicationSize s))
  some
    { engine := s
      inbound := .withCapacity (E.packetSize s)
      mailbox
      outbound := .withCapacity (E.packetSize s) }

end Checked

namespace Connection

variable {σ : Type}

/-- The buffers that are kept are sound. -/
structure Sound (c : Connection σ) : Prop where
  inbound : c.inbound.Sound
  mailbox : c.mailbox.Sound
  outbound : c.outbound.Sound

theorem Sound.wellFormed {c : Connection σ} (h : c.Sound) : c.WellFormed :=
  ⟨h.inbound.wellFormed, h.mailbox.wellFormed, h.outbound.wellFormed⟩

/-- The size that a command brings along: the limit that an injection may have to set, the capacity
of a scratch buffer, or the length of a payload. -/
def Command.size (E : Engine σ) (c : Connection σ) : Command → Nat
  | .inject bs => c.inbound.limit + bs.length
  | .read => E.applicationSize c.engine
  | .write bs => bs.length
  | .extract | .peerCertificate | .handshakeStatus | .shutdown | .isInitializing | .describe => 0

/-- A word can hold the size that a command brings along, and the sizes that destinations grow to
while it is performed. -/
def StepFits (E : Engine σ) (budget : Nat) (c : Connection σ) (command : Command) : Prop :=
  command.size E c < wordLimit ∧ GrowthFits (c.step E budget command).events

instance (E : Engine σ) (budget : Nat) (c : Connection σ) (command : Command) :
    Decidable (StepFits E budget c command) :=
  inferInstanceAs (Decidable (_ ∧ _))

/-- So it is for every command of a history. -/
def Fits (E : Engine σ) (budget : Nat) : Connection σ → List Command → Prop
  | _, [] => True
  | c, command :: rest =>
    StepFits E budget c command ∧ Fits E budget (c.step E budget command).connection rest

instance decidableFits (E : Engine σ) (budget : Nat) :
    (c : Connection σ) → (commands : List Command) → Decidable (Fits E budget c commands)
  | _, [] => .isTrue trivial
  | c, command :: rest =>
    have := decidableFits E budget (c.step E budget command).connection rest
    inferInstanceAs (Decidable (_ ∧ _))

end Connection

namespace Checked

open Connection

variable {σ α : Type} {c : Connection σ}

theorem receive_checks {storage : Bytes} {h : Handshake σ} (E : Engine σ) (budget : Nat)
    (hs : h.Sound storage) (hfits : GrowthFits (Connection.receive E budget h).events) :
    Checks (Handshake.Sound storage) (Handshake.onto storage)
      (receive E budget (h.onto storage)) (Connection.receive E budget h) :=
  Checks.andThen hfits (unwrap_checks E budget hs)
    fun _ _ hsound hrest => drive_checks E budget budget hsound hrest

theorem settle_eq {b : Buffer} (h : b.WellFormed) : settle b = some (Connection.settle b) := by
  rw [settle, Connection.settle]
  split
  · exact compact_eq h
  · exact clear_eq b

theorem sound_settle {b : Buffer} (h : b.Sound) : (Connection.settle b).Sound := by
  rw [Connection.settle]
  split
  · exact h.compact
  · exact h.clear

theorem opening_onto (E : Engine σ) (h : c.WellFormed) :
    (opening E c).onto c.inbound.storage =
      ⟨c.engine, c.inbound.flip, .withCapacity (E.applicationSize c.engine), c.outbound⟩ := by
  have hlen : c.inbound.held.length = c.inbound.position := Buffer.length_held h.inbound
  simp only [Handshake.onto, opening, Buffer.onto, Buffer.ofBytes, Buffer.flip, hlen]

theorem sound_opening (E : Engine σ) (h : c.Sound) (hsize : E.applicationSize c.engine < wordLimit) :
    (opening E c).Sound c.inbound.storage := by
  have hlen : c.inbound.held.length = c.inbound.position :=
    Buffer.length_held h.inbound.wellFormed
  have hpos : c.inbound.position ≤ c.inbound.storage.length :=
    Nat.le_trans h.inbound.wellFormed.1 h.inbound.wellFormed.2
  have hheld : c.inbound.held.length < wordLimit := by
    rw [hlen]
    exact Nat.lt_of_le_of_lt hpos h.inbound.fits
  refine ⟨Buffer.sound_ofBytes hheld, Buffer.sound_withCapacity hsize, h.outbound, ?_, ?_⟩
  · exact Nat.le_trans (Nat.le_of_eq hlen) hpos
  · show c.inbound.storage.take c.inbound.held.length = c.inbound.held.take c.inbound.held.length
    rw [List.take_length, hlen, Buffer.held]

/-- The inbound buffer after a read has called the engine. -/
theorem inbound_received (E : Engine σ) (budget : Nat) (h : c.WellFormed) :
    let o := Connection.receive E budget (opening E c)
    (o.state.onto c.inbound.storage).inbound = turned c o.state.inbound.position := by
  intro o
  have hlimit := (receive_moved E budget (wellFormed_opening E h)).inbound.limit
  have hlen : c.inbound.held.length = c.inbound.position := Buffer.length_held h.inbound
  have hsame : o.state.inbound.limit = c.inbound.position := hlimit.trans hlen
  simp only [Handshake.onto, Buffer.onto, turned, Buffer.flip, hsame]

theorem sound_turned (h : c.inbound.Sound) {position : Nat}
    (hposition : position ≤ c.inbound.position) : (turned c position).Sound :=
  ⟨wellFormed_turned h.wellFormed hposition, h.fits⟩

theorem closing_checks {o : Outcome (Handshake σ) EngineError Unit} {storage : Bytes}
    (h : c.Sound) (ho : o.state.Sound storage)
    (hinbound : (o.state.onto storage).inbound = turned c o.state.inbound.position)
    (hturned : (turned c o.state.inbound.position).Sound) :
    Checks Connection.Sound id (closing c (o.state.onto storage) o.verdict)
      (Connection.closing c o) := by
  have hscratch : drain (o.state.onto storage).scratch = some o.state.scratch.drain :=
    drain_eq ho.scratch.wellFormed
  rw [Connection.closing]
  cases hv : o.verdict with
  | done _ =>
    refine ⟨?_, sound_settle hturned, h.mailbox, ho.outbound⟩
    simp only [closing, hinbound, settle_eq hturned.wellFormed, hscratch, Option.bind_eq_bind,
      Option.bind_some]
    rfl
  | failed e =>
    refine ⟨?_, hturned, h.mailbox, ho.outbound⟩
    simp only [closing, hinbound]
    rfl
  | unfinished =>
    refine ⟨?_, hturned, h.mailbox, ho.outbound⟩
    simp only [closing, hinbound]
    rfl

theorem read_checks (E : Engine σ) (budget : Nat) (h : c.Sound)
    (hsize : E.applicationSize c.engine < wordLimit)
    (hfits : GrowthFits (c.read E budget).events) :
    Checks Connection.Sound id (read E budget c) (c.read E budget) := by
  have hflip := flip_eq h.inbound.wellFormed
  rcases Nat.eq_zero_or_pos c.inbound.position with hzero | hpos
  · have hempty : c.inbound.flip.hasRemaining = false := by
      rw [Buffer.hasRemaining_flip, hzero]
      rfl
    rw [read_empty E budget hzero]
    refine ⟨?_, h.inbound.flip.clear, h.mailbox, h.outbound⟩
    simp only [read, hflip, hempty, clear_eq, Option.bind_eq_bind, Option.bind_some,
      Bool.false_eq_true, if_false]
    rfl
  · have hfull : c.inbound.flip.hasRemaining = true := by
      rw [Buffer.hasRemaining_flip]
      exact decide_eq_true hpos
    rw [read_full E budget hpos, events_closing] at hfits
    have hreceive := receive_checks E budget (sound_opening E h hsize) hfits
    have hinbound := inbound_received E budget h.wellFormed
    obtain ⟨hposition, hwithin⟩ := position_received E budget h.wellFormed
    rw [← hposition, Buffer.length_held h.inbound.wellFormed] at hwithin
    have hturned := sound_turned h.inbound hwithin
    -- the model reads a copy of the held bytes, the machine the turned buffer that backs them
    have hrun := hreceive.run
    rw [opening_onto E h.wellFormed] at hrun
    rw [read_full E budget hpos]
    have hclosing := closing_checks h hreceive.sound hinbound hturned
    refine ⟨?_, hclosing.sound⟩
    simp only [read, hflip, hfull, hrun, Option.bind_eq_bind, Option.bind_some, if_true]
    exact hclosing.run

theorem write_checks (h : c.Sound) {bs : Bytes} (hsize : bs.length < wordLimit) :
    Checks Connection.Sound id (write c bs) (c.write bs) := by
  refine ⟨?_, h.inbound, Buffer.sound_ofBytes hsize, h.outbound⟩
  rw [write, remaining_eq h.mailbox.wellFormed]
  split <;> rfl

theorem closingWrap_checks {o : Outcome (Transfer σ) EngineError Report} (h : c.Sound)
    (hsource : o.state.source.Sound) (hdestination : o.state.destination.Sound) :
    Checks Connection.Sound id (closingWrap c o.state o.verdict) (Connection.closingWrap c o) := by
  rw [Connection.closingWrap]
  cases hv : o.verdict with
  | done r =>
    refine ⟨?_, h.inbound, hsource, hdestination.flip.clear⟩
    simp only [closingWrap, drain_eq hdestination.wellFormed, Option.bind_eq_bind, Option.bind_some]
    rfl
  | failed e => exact ⟨rfl, h.inbound, hsource, hdestination⟩
  | unfinished => exact ⟨rfl, h.inbound, hsource, hdestination⟩

theorem extract_checks (E : Engine σ) (budget : Nat) (h : c.Sound)
    (hfits : GrowthFits (c.extract E budget).events) :
    Checks Connection.Sound id (extract E budget c) (c.extract E budget) := by
  have hdrain := drain_eq h.outbound.wellFormed
  rcases Nat.eq_zero_or_pos c.outbound.position with hzero | hpos
  · rw [Buffer.drain_of_empty hzero] at hdrain
    cases hmailbox : c.mailbox.hasRemaining with
    | false =>
      rw [extract_idle E budget hzero hmailbox]
      refine ⟨?_, h.inbound, h.mailbox, h.outbound.flip.clear⟩
      simp only [extract, hdrain, hmailbox, Option.bind_eq_bind, Option.bind_some,
        Option.isSome_none, Bool.false_eq_true, if_false]
      rfl
    | true =>
      rw [extract_wrap E budget hzero hmailbox, events_closingWrap] at hfits
      rw [extract_wrap E budget hzero hmailbox]
      let t : Transfer σ := ⟨c.engine, c.mailbox, c.outbound.flip.clear.clear⟩
      have hrun := run_checks (t := t) E .wrap budget
        ⟨h.mailbox, h.outbound.flip.clear.clear, .refl h.mailbox.wellFormed⟩ hfits
      have hmoved := Transfer.run_moved (t := t) E .wrap budget h.mailbox.wellFormed
        (Buffer.wellFormed_clear _)
      have hsame := hrun.run
      rw [Transfer.onto_self hmoved.source.storage, Transfer.onto_self rfl] at hsame
      have hclosing := closingWrap_checks h hrun.sound.source hrun.sound.destination
      refine ⟨?_, hclosing.sound⟩
      simp only [extract, hdrain, hmailbox, clear_eq, Option.bind_eq_bind, Option.bind_some,
        Option.isSome_none, Bool.false_eq_true, if_false, if_true]
      rw [hsame]
      exact hclosing.run
  · rw [Buffer.drain_eq, if_pos hpos] at hdrain
    rw [extract_pending E budget hpos]
    refine ⟨?_, h.inbound, h.mailbox, h.outbound.flip.clear⟩
    simp only [extract, hdrain, Option.bind_eq_bind, Option.bind_some, Option.isSome_some, if_true]
    rfl

/-! ### Histories -/

theorem told_eq {x : Option (Connection σ × Verdict Error α)} {o : Outcome (Connection σ) Error α}
    (h : x = some (id o.state, o.verdict)) (reply : α → Reply) :
    told reply x = some ((Step.ofOutcome o reply).connection, (Step.ofOutcome o reply).reply) := by
  rw [h]
  rfl

/-- Every command does what it does without checks. -/
theorem step_checks (E : Engine σ) (budget : Nat) (h : c.Sound) {command : Command}
    (hfits : StepFits E budget c command) :
    step E budget c command =
        some ((c.step E budget command).connection, (c.step E budget command).reply) ∧
      (c.step E budget command).connection.Sound := by
  obtain ⟨hsize, hgrowth⟩ := hfits
  cases command with
  | inject bs =>
    refine ⟨?_, h.inbound.put fun _ => hsize, h.mailbox, h.outbound⟩
    simp only [step, put_eq h.inbound.wellFormed h.inbound.limit fun _ => hsize,
      Option.bind_eq_bind, Option.bind_some]
    rfl
  | read =>
    have hread := read_checks E budget h hsize hgrowth
    exact ⟨told_eq hread.run _, hread.sound⟩
  | write bs =>
    have hwrite := write_checks h hsize
    exact ⟨told_eq hwrite.run _, hwrite.sound⟩
  | extract =>
    have hextract := extract_checks E budget h hgrowth
    exact ⟨told_eq hextract.run _, hextract.sound⟩
  | describe =>
    refine ⟨?_, h⟩
    simp only [step, remaining_eq h.mailbox.wellFormed, Option.bind_eq_bind, Option.bind_some]
    rfl
  | peerCertificate => exact ⟨rfl, h⟩
  | handshakeStatus => exact ⟨rfl, h⟩
  | shutdown => exact ⟨rfl, h⟩
  | isInitializing => exact ⟨rfl, h⟩

theorem history_checks (E : Engine σ) (budget : Nat) {commands : List Command} (h : c.Sound)
    (hfits : Fits E budget c commands) :
    history E budget c commands =
      some ((Connection.history E budget c commands).map fun s => (s.connection, s.reply)) := by
  induction commands generalizing c with
  | nil => rfl
  | cons command rest ih =>
    obtain ⟨hstep, hsound⟩ := step_checks E budget h hfits.1
    simp only [history, hstep, ih hsound hfits.2, Option.bind_eq_bind, Option.bind_some]
    rfl

theorem new_checks (E : Engine σ) {s : σ} (hpacket : E.packetSize s < wordLimit)
    (hpayload : E.applicationSize s < wordLimit) :
    new E s = some (Connection.new E s) ∧ (Connection.new E s).Sound := by
  refine ⟨?_, Buffer.sound_withCapacity hpacket, (Buffer.sound_withCapacity hpayload).flip,
    Buffer.sound_withCapacity hpacket⟩
  simp only [new, flip_eq (Buffer.wellFormed_withCapacity _), Option.bind_eq_bind, Option.bind_some]
  rfl

end Checked

end RecordLayer
