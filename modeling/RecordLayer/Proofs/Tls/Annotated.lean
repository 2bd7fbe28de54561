import RecordLayer.Proofs.Simulation
import RecordLayer.Proofs.Tls.Sessions

/-!
# Notes on a session

A scribe stands beside a session and takes notes of what it is fed, of what it processes and of what
it is given to protect. Reading and flushing are not noted. What the notes are is up to the scribe,
and nobody can tell from outside that there are any.

* `Provider.Forgets` says that a map between sessions commutes with all that a provider does, and
  `Provider.Forgets.simulates` that the engines then behave alike;
* `Annotated` is a session with its notes, `Scribe` says what they are, and `Provider.annotated` is
  the provider that keeps them;
* `plain_simulates`: notes make no difference;
* `ReadsFront.annotated`, `Releases.annotated`, `FlushesFront.annotated`, `Queues.annotated` and
  `Drains.annotated`: what is relied on of a session can be relied on with notes, which reading and
  flushing keep.
-/

namespace RecordLayer.Tls

variable {ρ τ κ : Type}

/-! ### Maps between sessions -/

/-- The sessions of `P`, seen through `f`, do what those of `Q` do. -/
structure Provider.Forgets (P : Provider ρ) (Q : Provider τ) (f : ρ → τ) : Prop where
  wantsWrite : ∀ s, Q.wantsWrite (f s) = P.wantsWrite s
  isHandshaking : ∀ s, Q.isHandshaking (f s) = P.isHandshaking s
  feed : ∀ s bs, Q.feed (f s) bs = (P.feed s bs).map f id
  process : ∀ s, Q.process (f s) = (P.process s).map f id
  readPlaintext : ∀ s room, Q.readPlaintext (f s) room = (P.readPlaintext s room).map f id
  writePlaintext : ∀ s bs, Q.writePlaintext (f s) bs = (P.writePlaintext s bs).map f id
  flush : ∀ s room, Q.flush (f s) room = (P.flush s room).map f id
  peerCertificates : ∀ s, Q.peerCertificates (f s) = P.peerCertificates s

namespace State

def map (f : ρ → τ) (s : State ρ) : State τ :=
  ⟨f s.session, s.pending, s.peerClosed⟩

end State

/-- The answer as it looks when the session is seen through `f`. -/
def seen (f : ρ → τ) (a : Answer (State ρ)) : Answer (State τ) :=
  ⟨a.engine.map f, a.written, a.report⟩

section

variable {P : Provider ρ} {Q : Provider τ} {f : ρ → τ}

theorem deliver_forgets (h : P.Forgets Q f) (s : State ρ) (room : Nat) :
    deliver Q (s.map f) room = (deliver P s room).map (State.map f) id := by
  simp only [deliver, State.map, h.readPlaintext]
  split
  · rfl
  · rcases P.readPlaintext s.session room with ⟨session, bs | _ | text⟩ <;> rfl

theorem flush_forgets (h : P.Forgets Q f) (session : ρ) (room : Nat) :
    flush Q (f session) room =
      ⟨f (flush P session room).session, (flush P session room).written,
        (flush P session room).failure⟩ := by
  induction session, room using flush.induct P with
  | case1 session room hwants s' text hflush =>
    rw [flush, flush, h.wantsWrite, if_pos hwants, if_pos hwants, h.flush, hflush]
    rfl
  | case2 session room hwants s' bs hflush hnone =>
    rw [flush, flush, h.wantsWrite, if_pos hwants, if_pos hwants, h.flush, hflush]
    simp only [Prod.map, id, dif_pos hnone]
  | case3 session room hwants s' bs hflush hsome ih =>
    rw [flush, flush, h.wantsWrite, if_pos hwants, if_pos hwants, h.flush, hflush]
    simp only [Prod.map, id, dif_neg hsome, ih]
  | case4 session room hwants =>
    rw [flush, flush, h.wantsWrite, if_neg hwants, if_neg hwants]

theorem feed_forgets (h : P.Forgets Q f) (session : ρ) (record : Bytes) :
    feed Q (f session) record = (feed P session record).map f id := by
  induction session, record using feed.induct P with
  | case1 session =>
    rw [feed, feed]
    rfl
  | case2 session record hrecord s' text hfeed =>
    rw [feed, feed, dif_neg hrecord, dif_neg hrecord, h.feed, hfeed]
    rfl
  | case3 session record hrecord s' hfeed =>
    rw [feed, feed, dif_neg hrecord, dif_neg hrecord, h.feed, hfeed]
    rfl
  | case4 session record hrecord s' taken hfeed ih =>
    rw [feed, feed, dif_neg hrecord, dif_neg hrecord, h.feed, hfeed]
    exact ih

theorem finishWrap_forgets (h : P.Forgets Q f) (s : State ρ) (room consumed : Nat) :
    finishWrap Q (s.map f) room consumed = seen f (finishWrap P s room consumed) := by
  simp only [finishWrap, State.map, flush_forgets h, seen, flushStatus, h.wantsWrite]

theorem wrap_forgets (h : P.Forgets Q f) (s : State ρ) (source : Bytes) (room : Nat) :
    wrap Q (s.map f) source room = seen f (wrap P s source room) := by
  have hwants : Q.wantsWrite (s.map f).session = P.wantsWrite s.session := h.wantsWrite _
  have hshaking : Q.isHandshaking (s.map f).session = P.isHandshaking s.session :=
    h.isHandshaking _
  have hwrite : Q.writePlaintext (s.map f).session source =
    (P.writePlaintext s.session source).map f id := h.writePlaintext _ _
  rw [wrap, wrap, hwants, hshaking, hwrite]
  split
  · exact finishWrap_forgets h s room 0
  · split
    · rfl
    · rcases P.writePlaintext s.session source with ⟨session, text | taken⟩
      · rfl
      · exact finishWrap_forgets h { s with session } room taken

theorem openRecord_forgets (h : P.Forgets Q f) (s : State ρ) (record earlier : Bytes)
    (room : Nat) :
    openRecord Q (s.map f) record earlier room = seen f (openRecord P s record earlier room) := by
  have hfeed : feed Q (s.map f).session record = (feed P s.session record).map f id :=
    feed_forgets h s.session record
  rw [openRecord, openRecord, hfeed]
  rcases feed P s.session record with ⟨fed, e | _⟩
  · rfl
  · simp only [Prod.map, id]
    rw [h.process]
    rcases P.process fed with ⟨processed, e | progress⟩
    · rfl
    · have hdeliver := deliver_forgets h ⟨processed, progress.plaintext, progress.peerClosed⟩
        (room - earlier.length)
      simp only [State.map] at hdeliver
      simp only [Prod.map, id]
      rw [hdeliver]
      rcases deliver P ⟨processed, progress.plaintext, progress.peerClosed⟩
        (room - earlier.length) with ⟨s', e | later⟩ <;> rfl

theorem unwrap_forgets (h : P.Forgets Q f) (s : State ρ) (source : Bytes) (room : Nat) :
    unwrap Q (s.map f) source room = seen f (unwrap P s source room) := by
  rw [unwrap, unwrap, deliver_forgets h]
  rcases deliver P s room with ⟨s', e | earlier⟩
  · rfl
  · simp only [Prod.map, id]
    have hpending : (s'.map f).pending = s'.pending := rfl
    have hclosed : (s'.map f).peerClosed = s'.peerClosed := rfl
    rw [hpending, hclosed]
    split
    · rfl
    · split
      · rfl
      · rcases Record.completeLength source with e | _ | length
        · rfl
        · rfl
        · exact openRecord_forgets h s' (source.take length) earlier room

/-- What cannot be told apart as sessions cannot be told apart as engines. -/
theorem Provider.Forgets.simulates (h : P.Forgets Q f) :
    (engine P).Simulates (engine Q) (State.map f) where
  call direction s source destination := by
    cases direction with
    | wrap => exact wrap_forgets h s source destination.length
    | unwrap => exact unwrap_forgets h s source destination.length
  handshakeStatus s := by
    show handshakeStatus Q (s.map f) = handshakeStatus P s
    simp only [handshakeStatus, State.map, h.wantsWrite, h.isHandshaking]
  nextTask _ := rfl
  task _ := .none
  packetSize _ := rfl
  applicationSize _ := rfl
  peerCertificates s := h.peerCertificates s.session

end

/-! ### Notes -/

/-- A session with what was noted of it. -/
structure Annotated (ρ κ : Type) where
  session : ρ
  notes : κ

/-- What is noted, by the notes that there were and what has been done. -/
structure Scribe (ρ κ : Type) where
  /-- The session was fed some bytes, of which it took so many. -/
  feed : κ → ρ → Bytes → Except String Nat → κ := fun notes _ _ _ => notes
  /-- The first session became the second by processing. -/
  process : κ → ρ → ρ → κ
  /-- The first session became the second when it was given some bytes, of which it took so many. -/
  write : κ → ρ → ρ → Bytes → Except String Nat → κ := fun notes _ _ _ _ => notes

/-- The bytes that were taken of some. -/
def taken (bs : Bytes) (result : Except String Nat) : Bytes :=
  match result with
  | .ok count => bs.take count
  | .error _ => []

/-- The provider whose sessions have notes. -/
def Provider.annotated (P : Provider ρ) (N : Scribe ρ κ) : Provider (Annotated ρ κ) where
  wantsWrite m := P.wantsWrite m.session
  isHandshaking m := P.isHandshaking m.session
  feed m bs :=
    let (session, result) := P.feed m.session bs
    (⟨session, N.feed m.notes m.session bs result⟩, result)
  process m :=
    let (session, result) := P.process m.session
    (⟨session, N.process m.notes m.session session⟩, result)
  readPlaintext m room :=
    let (session, result) := P.readPlaintext m.session room
    ({ m with session }, result)
  writePlaintext m bs :=
    let (session, result) := P.writePlaintext m.session bs
    (⟨session, N.write m.notes m.session session bs result⟩, result)
  flush m room :=
    let (session, result) := P.flush m.session room
    ({ m with session }, result)
  peerCertificates m := P.peerCertificates m.session

theorem annotated_forgets (P : Provider ρ) (N : Scribe ρ κ) :
    (P.annotated N).Forgets P Annotated.session where
  wantsWrite _ := rfl
  isHandshaking _ := rfl
  feed _ _ := rfl
  process _ := rfl
  readPlaintext _ _ := rfl
  writePlaintext _ _ := rfl
  flush _ _ := rfl
  peerCertificates _ := rfl

/-- The state when notes are taken from now on. -/
def State.note (notes : κ) (s : State ρ) : State (Annotated ρ κ) :=
  s.map fun session => { session, notes }

/-- The state without the notes. -/
def State.plain (s : State (Annotated ρ κ)) : State ρ :=
  s.map Annotated.session

/-- Taking notes changes nothing that can be seen from outside. -/
theorem plain_simulates (P : Provider ρ) (N : Scribe ρ κ) :
    (engine (P.annotated N)).Simulates (engine P) State.plain :=
  (annotated_forgets P N).simulates

section

variable {P : Provider ρ} {N : Scribe ρ κ} {m m' : Annotated ρ κ}

/-! ### What an operation has done -/

theorem annotated_feed {bs : Bytes} {result : Except String Nat}
    (h : (P.annotated N).feed m bs = (m', result)) :
    P.feed m.session bs = (m'.session, result) ∧
      m'.notes = N.feed m.notes m.session bs result := by
  cases h
  exact ⟨rfl, rfl⟩

theorem annotated_process {result : Except ProtocolError Progress}
    (h : (P.annotated N).process m = (m', result)) :
    P.process m.session = (m'.session, result) ∧
      m'.notes = N.process m.notes m.session m'.session := by
  cases h
  exact ⟨rfl, rfl⟩

theorem annotated_read {room : Nat} {result : PlaintextRead}
    (h : (P.annotated N).readPlaintext m room = (m', result)) :
    P.readPlaintext m.session room = (m'.session, result) ∧ m'.notes = m.notes := by
  cases h
  exact ⟨rfl, rfl⟩

theorem annotated_write {bs : Bytes} {result : Except String Nat}
    (h : (P.annotated N).writePlaintext m bs = (m', result)) :
    P.writePlaintext m.session bs = (m'.session, result) ∧
      m'.notes = N.write m.notes m.session m'.session bs result := by
  cases h
  exact ⟨rfl, rfl⟩

theorem annotated_flush {room : Nat} {result : Except String Bytes}
    (h : (P.annotated N).flush m room = (m', result)) :
    P.flush m.session room = (m'.session, result) ∧ m'.notes = m.notes := by
  cases h
  exact ⟨rfl, rfl⟩

theorem feed_annotated {record : Bytes} {result : Except EngineError Unit}
    (h : feed (P.annotated N) m record = (m', result)) :
    feed P m.session record = (m'.session, result) := by
  rw [feed_forgets (annotated_forgets P N), h]
  rfl

/-- Nothing is noted while the engine flushes, whether it fails or not. -/
theorem notes_flush (N : Scribe ρ κ) (m : Annotated ρ κ) (room : Nat) :
    (flush (P.annotated N) m room).session.notes = m.notes :=
  flush_keeps (P := P.annotated N) (K := fun left => left.notes = m.notes) (fun _ _ hkept => hkept)
    rfl room

/-- Nor while it hands out plaintext. -/
theorem notes_deliver (N : Scribe ρ κ) (s : State (Annotated ρ κ)) (room : Nat) :
    (deliver (P.annotated N) s room).1.session.notes = s.session.notes :=
  deliver_keeps (P := P.annotated N) (K := fun left => left.notes = s.session.notes)
    (fun _ _ hkept => hkept) rfl room

/-! ### What can be relied on -/

variable {plaintext output : ρ → Bytes} {ι : Type} {kept : ρ → ι} {live : ρ → Prop}

theorem ReadsFront.annotated (h : ReadsFront P plaintext kept live) (N : Scribe ρ κ) :
    ReadsFront (P.annotated N) (fun m => plaintext m.session) (fun m => (kept m.session, m.notes))
      fun m => live m.session where
  read m room m' bs hm hsome hroom hread := by
    obtain ⟨hread, hnotes⟩ := annotated_read hread
    obtain ⟨hlive, hbs, hlength, hfront, hkept⟩ := h.read _ _ _ _ hm hsome hroom hread
    exact ⟨hlive, hbs, hlength, hfront, Prod.ext hkept hnotes⟩
  ready m := h.ready m.session

theorem Releases.annotated (h : Releases P plaintext) (N : Scribe ρ κ) :
    Releases (P.annotated N) fun m => plaintext m.session where
  processed m _ progress hprocess :=
    h.processed m.session _ progress (annotated_process hprocess).1
  read m room hsome hroom := by
    obtain ⟨session, hread, hleft⟩ := h.read m.session room hsome hroom
    refine ⟨{ m with session }, ?_, hleft⟩
    simp only [Provider.annotated, hread]

theorem FlushesFront.annotated (h : FlushesFront P output kept live) (N : Scribe ρ κ) :
    FlushesFront (P.annotated N) (fun m => output m.session) (fun m => (kept m.session, m.notes))
      fun m => live m.session where
  wantsWrite m := h.wantsWrite m.session
  flushed m room m' bs hm hsome hflush := by
    obtain ⟨hflush, hnotes⟩ := annotated_flush hflush
    obtain ⟨hlive, hlength, hfront, hkept⟩ := h.flushed _ _ _ _ hm hsome hflush
    exact ⟨hlive, hlength, hfront, Prod.ext hkept hnotes⟩

theorem Queues.annotated (h : Queues P output live) (N : Scribe ρ κ) :
    Queues (P.annotated N) (fun m => output m.session) fun m => live m.session where
  toFlushesFront := (h.toFlushesFront.annotated N).less fun _ => ()
  smooth m room hm hsome := by
    obtain ⟨session, bs, hflush⟩ := h.smooth m.session room hm hsome
    refine ⟨{ m with session }, bs, ?_⟩
    simp only [Provider.annotated, hflush]

theorem Drains.annotated {queued : ρ → Nat} (h : Drains P queued live) (N : Scribe ρ κ) :
    Drains (P.annotated N) (fun m => queued m.session) fun m => live m.session where
  flushed _ _ _ _ hm hwanted hflush := h.flushed _ _ _ _ hm hwanted (annotated_flush hflush).1

end

end RecordLayer.Tls
