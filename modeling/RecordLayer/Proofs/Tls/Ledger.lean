import RecordLayer.Proofs.Tls.Annotated

/-!
# The ledger of a session

The ledger has all that a session has ever decrypted and all output that it has ever queued. The
books balance if what was decrypted is what was read and what still waits, and what was queued is
what was sent and what still waits.

* `Serves` is what is relied on of the session;
* `Ledger` is what is entered, `Metered` a session with its ledger, and `Provider.metered` its
  provider;
* `Balanced` is the balance, and `Serves.unwrap` and `Serves.wrap` say what calls do to it.
-/

namespace RecordLayer.Tls

variable {ρ : Type}

/-- What holds of the sessions in `live`, and leads to no other ones. -/
structure Serves (P : Provider ρ) (plaintext output : ρ → Bytes) (live : ρ → Prop) : Prop
    extends FlushesFront P output plaintext live, ReadsFront P plaintext output live,
      OpensQuietly P plaintext output live where
  /-- Bytes that were only taken make no difference yet. -/
  fed : ∀ s bs, plaintext (P.feed s bs).1 = plaintext s ∧ output (P.feed s bs).1 = output s
  written : ∀ s bs s' count, live s → output s = [] → P.writePlaintext s bs = (s', .ok count) →
    live s' ∧ count ≤ bs.length ∧ plaintext s' = plaintext s

structure Ledger where
  /-- The plaintext that was decrypted so far. -/
  decrypted : Bytes := []
  /-- The output that was queued so far. -/
  queued : Bytes := []

/-- Enters what the second session has more than the first. -/
def Ledger.enter (l : Ledger) (plaintext output : ρ → Bytes) (s s' : ρ) : Ledger where
  decrypted := l.decrypted ++ (plaintext s').drop (plaintext s).length
  queued := l.queued ++ (output s').drop (output s).length

/-- The ledger of sessions: processing and writing are what there is to enter. -/
def Scribe.ledger (plaintext output : ρ → Bytes) : Scribe ρ Ledger where
  process l s s' := l.enter plaintext output s s'
  write l s s' _ _ := l.enter plaintext output s s'

/-- A session with its ledger. -/
abbrev Metered (ρ : Type) : Type :=
  Annotated ρ Ledger

abbrev Provider.metered (P : Provider ρ) (plaintext output : ρ → Bytes) : Provider (Metered ρ) :=
  P.annotated (.ledger plaintext output)

/-- The books balance, after `read` was read and `sent` was sent. -/
structure Balanced (plaintext output : ρ → Bytes) (live : ρ → Prop) (read sent : Bytes)
    (s : State (Metered ρ)) : Prop where
  live : live s.session.session
  pending : s.pending = (plaintext s.session.session).length
  decrypted : s.session.notes.decrypted = read ++ plaintext s.session.session
  queued : s.session.notes.queued = sent ++ output s.session.session

variable {P : Provider ρ} {plaintext output : ρ → Bytes} {live : ρ → Prop} {read sent : Bytes}
  {s s' : State (Metered ρ)}

/-- Handing out plaintext moves it from what waits to what was read. -/
theorem Serves.deliver (h : Serves P plaintext output live)
    (hs : Balanced plaintext output live read sent s) {room : Nat} {bs : Bytes}
    (hdeliver : deliver (P.metered plaintext output) s room = (s', .ok bs)) :
    Balanced plaintext output live (read ++ bs) sent s' ∧ bs.length ≤ room ∧
      plaintext s.session.session = bs ++ plaintext s'.session.session ∧
      output s'.session.session = output s.session.session ∧ s'.peerClosed = s.peerClosed := by
  obtain ⟨hdelivered, hlength⟩ :=
    (h.toReadsFront.annotated (.ledger plaintext output)).deliver hs.live hs.pending hdeliver
  obtain ⟨houtput, hnotes⟩ := Prod.mk.inj hdelivered.kept
  have hfront := hdelivered.plaintext
  refine ⟨⟨hdelivered.live, hdelivered.counted, ?_, ?_⟩, hlength, hfront, houtput,
    hdelivered.peerClosed⟩
  · rw [hnotes, hs.decrypted, hfront, List.append_assoc]
  · rw [hnotes, houtput, hs.queued]

/-- Flushing moves output from what waits to what was sent. -/
theorem Serves.flush (h : Serves P plaintext output live)
    (hs : Balanced plaintext output live read sent s) {room : Nat}
    (hsmooth : (flush (P.metered plaintext output) s.session room).failure = none) :
    Balanced plaintext output live read
        (sent ++ (flush (P.metered plaintext output) s.session room).written)
        { s with session := (flush (P.metered plaintext output) s.session room).session } ∧
      plaintext (flush (P.metered plaintext output) s.session room).session.session =
        plaintext s.session.session := by
  obtain ⟨hlive, -, hfront, hkept⟩ :=
    (h.toFlushesFront.annotated (.ledger plaintext output)).flush hs.live hsmooth
  obtain ⟨hplaintext, hnotes⟩ := Prod.mk.inj hkept
  refine ⟨⟨hlive, ?_, ?_, ?_⟩, hplaintext⟩
  · rw [hplaintext]
    exact hs.pending
  · rw [hplaintext, hnotes]
    exact hs.decrypted
  · rw [hnotes, hs.queued, hfront, List.append_assoc]

/-! ### Entries -/

/-- When nothing waits, what is entered is all that waits then. -/
theorem Balanced.enter (hs : Balanced plaintext output live read sent s)
    (hplaintext : plaintext s.session.session = []) (houtput : output s.session.session = [])
    {session : ρ} (hlive : live session) {pending : Nat}
    (hpending : pending = (plaintext session).length) (peerClosed : Bool) :
    Balanced plaintext output live read sent
      ⟨⟨session, s.session.notes.enter plaintext output s.session.session session⟩, pending,
        peerClosed⟩ := by
  have hdecrypted := hs.decrypted
  have hqueued := hs.queued
  rw [hplaintext, List.append_nil] at hdecrypted
  rw [houtput, List.append_nil] at hqueued
  refine ⟨hlive, hpending, ?_, ?_⟩
  · show s.session.notes.decrypted ++
      (plaintext session).drop (plaintext s.session.session).length = _
    rw [hdecrypted, hplaintext]
    rfl
  · show s.session.notes.queued ++ (output session).drop (output s.session.session).length = _
    rw [hqueued, houtput]
    rfl

/-- Feeding makes no entry and changes nothing that waits. -/
theorem Serves.feed (h : Serves P plaintext output live) (m : Metered ρ) (record : Bytes) :
    let fed := (feed (P.metered plaintext output) m record).1
    plaintext fed.session = plaintext m.session ∧ output fed.session = output m.session ∧
      fed.notes = m.notes := by
  refine feed_keeps (P := P.metered plaintext output)
    (K := fun fed => plaintext fed.session = plaintext m.session ∧
      output fed.session = output m.session ∧ fed.notes = m.notes) ?_ ⟨rfl, rfl, rfl⟩ record
  rintro fed bs ⟨hplaintext, houtput, hnotes⟩
  obtain ⟨hplaintext', houtput'⟩ := h.fed fed.session bs
  exact ⟨hplaintext'.trans hplaintext, houtput'.trans houtput, hnotes⟩

/-- A record that was fed and processed. -/
theorem Serves.process (h : Serves P plaintext output live)
    (hs : Balanced plaintext output live read sent s)
    (hplaintext : plaintext s.session.session = []) (houtput : output s.session.session = [])
    {record : Bytes} (hrecord : Record.IsRecord record) {fed processed : Metered ρ}
    {progress : Progress}
    (hfeed : Tls.feed (P.metered plaintext output) s.session record = (fed, .ok ()))
    (hprocess : (P.metered plaintext output).process fed = (processed, .ok progress)) :
    Balanced plaintext output live read sent
        ⟨processed, progress.plaintext, progress.peerClosed⟩ ∧
      (plaintext processed.session ≠ [] ∨ progress.peerClosed = true →
        output processed.session = []) := by
  have hkept := h.feed s.session record
  rw [hfeed] at hkept
  obtain ⟨hplaintext', houtput', hnotes⟩ := hkept
  obtain ⟨hplain, hentry⟩ := annotated_process hprocess
  obtain ⟨hlive, hpending, hquiet⟩ := h.processed _ _ _ _ _ hs.live hplaintext houtput hrecord
    (feed_annotated hfeed) hplain
  have hentered := hs.enter hplaintext houtput hlive hpending progress.peerClosed
  have hsame : processed.notes =
      s.session.notes.enter plaintext output s.session.session processed.session := by
    rw [hentry, ← hnotes]
    simp only [Scribe.ledger, Ledger.enter, hplaintext', houtput']
  rw [← hsame] at hentered
  exact ⟨hentered, hquiet⟩

/-! ### Calls -/

/-- What a successful unwrap has done, when no output waited before: what it wrote was read, and
what still waits shows in its status. -/
theorem Serves.unwrap (h : Serves P plaintext output live)
    (hs : Balanced plaintext output live read sent s) (houtput : output s.session.session = [])
    {source : Bytes} {room : Nat} {a : Answer (State (Metered ρ))} {r : Report}
    (hok : UnwrapOk (P.metered plaintext output) s source room a r) :
    Balanced plaintext output live (read ++ a.written) sent a.engine ∧
      (r.status ≠ .overflow → plaintext a.engine.session.session = []) ∧
      (r.status ≠ .ok → output a.engine.session.session = []) := by
  have hdone : ∀ {read : Bytes} {s : State (Metered ρ)},
      Balanced plaintext output live read sent s → ¬0 < s.pending →
      plaintext s.session.session = [] := by
    intro read s hs hnone
    rw [hs.pending, List.length_pos_iff] at hnone
    exact not_not.mp hnone
  cases hok with
  | handedOut delivered stops =>
    obtain ⟨hs₁, -, -, houtput₁, -⟩ := h.deliver hs delivered
    exact ⟨hs₁, fun hother => hdone hs₁ (mt stops.overflow_iff.mpr hother),
      fun _ => houtput₁.trans houtput⟩
  | opened delivered pending peer whole taken handled delivered' =>
    obtain ⟨hdeclared, hwhole⟩ := Record.declared?_of_completeLength whole
    obtain ⟨hs₁, -, -, houtput₁, -⟩ := h.deliver hs delivered
    have hnone := hdone hs₁ (Nat.not_lt_of_le (Nat.le_of_eq pending))
    obtain ⟨hprocessed, hquiet⟩ := h.process hs₁ hnone (houtput₁.trans houtput)
      (Record.isRecord_take hdeclared hwhole) taken handled
    obtain ⟨hs₂, -, hfront, houtput₂, hclosed⟩ := h.deliver hprocessed delivered'
    rw [List.append_assoc] at hs₂
    refine ⟨hs₂, fun hother => hdone hs₂ (mt (unwrapStatus_eq_overflow _).mpr hother),
      fun hother => houtput₂.trans (hquiet ?_)⟩
    rcases waits_of_unwrapStatus hother with hpending | hpeer
    · left
      rw [hs₂.pending, List.length_pos_iff] at hpending
      rw [hfront]
      exact List.append_ne_nil_of_right_ne_nil _ hpending
    · exact .inr (hclosed.symm.trans hpeer)

/-- What a successful wrap has done, when no plaintext waited before: what it wrote was sent. It
takes nothing of its source while output waits. -/
theorem Serves.wrap (h : Serves P plaintext output live)
    (hs : Balanced plaintext output live read sent s)
    (hplaintext : plaintext s.session.session = []) {source : Bytes} {room : Nat}
    {a : Answer (State (Metered ρ))} {r : Report}
    (hok : WrapOk (P.metered plaintext output) s source room a r) :
    Balanced plaintext output live read (sent ++ a.written) a.engine ∧
      r.consumed ≤ source.length ∧ plaintext a.engine.session.session = [] ∧
      (output s.session.session ≠ [] → r.consumed = 0) := by
  cases hok with
  | idle unwanted =>
    rw [List.append_nil]
    exact ⟨hs, Nat.zero_le _, hplaintext, fun _ => rfl⟩
  | flushed wanted smooth =>
    obtain ⟨hflushed, hsame⟩ := h.flush hs smooth
    exact ⟨hflushed, Nat.zero_le _, hsame.trans hplaintext, fun _ => rfl⟩
  | @wrote session count unwanted established taken smooth =>
    have houtput : output s.session.session = [] := h.output_eq_nil hs.live unwanted
    obtain ⟨hplain, hentry⟩ := annotated_write taken
    obtain ⟨hlive, hle, hkept⟩ := h.written _ _ _ _ hs.live houtput hplain
    have hpending : s.pending = (plaintext session.session).length := by
      rw [hkept]
      exact hs.pending
    have hentered := hs.enter hplaintext houtput hlive hpending s.peerClosed
    rw [← show session.notes = s.session.notes.enter plaintext output s.session.session
      session.session from hentry] at hentered
    obtain ⟨hflushed, hsame⟩ := h.flush hentered smooth
    exact ⟨hflushed, hle, hsame.trans (hkept.trans hplaintext), fun hsome => absurd houtput hsome⟩

end RecordLayer.Tls
