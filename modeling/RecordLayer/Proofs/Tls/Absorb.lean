import RecordLayer.Proofs.Record
import RecordLayer.Proofs.Transfer
import RecordLayer.Proofs.Tls.Watched

/-!
# Absorbing records one after the other

What a session comes to depends on the records alone if everything that it gives is taken out
before the next record. The engine does not always take everything out at once, but what it has
taken out and what still waits make up the same.

* `absorb` is one record in a session in which nothing waits, `absorbAll` a list of them;
* `Tracks` is the invariant of the engine: what was read and sent so far, and what waits, is what
  absorbing the records gives;
* `Tracks.unwrapOk`, `Tracks.unwrapFailed` and `Tracks.wrapOk` say what the calls of the engine do
  to it.
-/

namespace RecordLayer.Tls

variable {ρ : Type}

/-- What some records made of a session. -/
structure Absorbed (ρ : Type) where
  session : ρ
  plaintext : Bytes := []
  output : Bytes := []
  peerClosed : Bool := false

def absorb (P : Provider ρ) (V : View ρ) (a : Absorbed ρ) (record : Bytes) : Absorbed ρ :=
  let (session, result) := P.process (feed P a.session record).1
  { session := V.emptied session
    plaintext := a.plaintext ++ V.plaintext session
    output := a.output ++ V.output session
    peerClosed :=
      match result with
      | .ok progress => progress.peerClosed
      | .error _ => a.peerClosed }

def absorbAll (P : Provider ρ) (V : View ρ) (start : ρ) (records : List Bytes) : Absorbed ρ :=
  records.foldl (absorb P V) { session := start }

theorem absorbAll_concat (P : Provider ρ) (V : View ρ) (start : ρ) (records : List Bytes)
    (record : Bytes) :
    absorbAll P V start (records ++ [record]) =
      absorb P V (absorbAll P V start records) record := by
  simp only [absorbAll, List.foldl_append, List.foldl_cons, List.foldl_nil]

/-- After `read` was read and `sent` was sent. -/
structure Tracks (P : Provider ρ) (V : View ρ) (live : ρ → Prop) (start : ρ)
    (s : State (Watched ρ)) (read sent : Bytes) : Prop where
  live : live s.session.session
  begun : s.session.notes.begun = []
  pending : s.pending = (V.plaintext s.session.session).length
  quiet : V.plaintext s.session.session ≠ [] ∨ s.peerClosed = true →
    V.output s.session.session = []
  absorbed : absorbAll P V start s.session.notes.fed =
    { session := V.emptied s.session.session
      plaintext := read ++ V.plaintext s.session.session
      output := sent ++ V.output s.session.session
      peerClosed := s.peerClosed }

section

variable {P : Provider ρ} {V : View ρ} {live : ρ → Prop} {start : ρ} {s : State (Watched ρ)}
  {read sent : Bytes}

theorem tracks_watch (h : V.Lawful P live) (hstart : live start)
    (hplaintext : V.plaintext start = []) (houtput : V.output start = []) :
    Tracks P V live start (State.watch ⟨start, 0, false⟩) [] [] where
  live := hstart
  begun := rfl
  pending := by
    show 0 = (V.plaintext start).length
    rw [hplaintext, List.length_nil]
  quiet _ := houtput
  absorbed := by
    show Absorbed.mk start [] [] false =
      Absorbed.mk (V.emptied start) ([] ++ V.plaintext start) ([] ++ V.output start) false
    rw [h.emptied start hstart hplaintext houtput, hplaintext, houtput, List.append_nil]

theorem Tracks.deliver (h : V.Lawful P live) (hs : Tracks P V live start s read sent) {room : Nat}
    {s' : State (Watched ρ)} {bs : Bytes}
    (hdeliver : deliver (P.watched V.output) s room = (s', .ok bs)) :
    Tracks P V live start s' (read ++ bs) sent ∧
      V.output s'.session.session = V.output s.session.session ∧
      s'.session.notes = s.session.notes := by
  obtain ⟨hd, -⟩ := (h.toReadsFront.annotated (.watch V.output)).deliver hs.live hs.pending hdeliver
  obtain ⟨hkept, hnotes⟩ := Prod.mk.inj hd.kept
  obtain ⟨houtput, hemptied⟩ := Prod.mk.inj hkept
  have hplaintext := hd.plaintext
  refine ⟨⟨hd.live, ?_, hd.counted, ?_, ?_⟩, houtput, hnotes⟩
  · rw [hnotes]
    exact hs.begun
  · intro hwaits
    rw [houtput]
    apply hs.quiet
    rcases hwaits with hplain | hclosed
    · left
      rw [hplaintext]
      exact List.append_ne_nil_of_right_ne_nil _ hplain
    · exact .inr (hd.peerClosed.symm.trans hclosed)
  · have habsorbed := hs.absorbed
    rw [hplaintext, ← List.append_assoc] at habsorbed
    rw [hnotes, houtput, hemptied, hd.peerClosed]
    exact habsorbed

theorem Tracks.flush (h : V.Lawful P live) (hs : Tracks P V live start s read sent) {room : Nat}
    (hsmooth : (flush (P.watched V.output) s.session room).failure = none) :
    Tracks P V live start { s with session := (flush (P.watched V.output) s.session room).session }
        read (sent ++ (flush (P.watched V.output) s.session room).written) ∧
      V.plaintext (flush (P.watched V.output) s.session room).session.session =
        V.plaintext s.session.session := by
  obtain ⟨hlive, -, houtput, hkept⟩ :=
    (h.toFlushesFront.annotated (.watch V.output)).flush hs.live hsmooth
  obtain ⟨hkept, hnotes⟩ := Prod.mk.inj hkept
  obtain ⟨hplaintext, hemptied⟩ := Prod.mk.inj hkept
  refine ⟨⟨hlive, ?_, hs.pending.trans (congrArg _ hplaintext.symm), ?_, ?_⟩, hplaintext⟩
  · rw [hnotes]
    exact hs.begun
  · intro hwaits
    have hnone := hs.quiet (hwaits.imp_left fun hsome => hplaintext ▸ hsome)
    rw [houtput, List.append_eq_nil_iff] at hnone
    exact hnone.2
  · have habsorbed := hs.absorbed
    rw [houtput, ← List.append_assoc] at habsorbed
    rw [hnotes, hplaintext, hemptied]
    exact habsorbed

/-! ### The calls of the engine -/

/-- The records that a call has fed, and what they stood in front of. -/
structure Feeds (s : State (Watched ρ)) (source : Bytes) (records : List Bytes)
    (s' : State (Watched ρ)) : Prop where
  fed : s'.session.notes.fed = s.session.notes.fed ++ records
  framed : ∀ record ∈ records, Record.IsRecord record
  front : records.flatten <+: source

theorem feeds_none {s s' : State (Watched ρ)} {source : Bytes}
    (h : s'.session.notes.fed = s.session.notes.fed) : Feeds s source [] s' :=
  ⟨by rw [h, List.append_nil], nofun, List.nil_prefix⟩

/-- A record that was fed whole and processed is the one that a call has fed. -/
theorem feeds_processed {s s₁ s' : State (Watched ρ)} {source : Bytes} {length : Nat}
    {fed processed : Watched ρ} {result : Except ProtocolError Progress}
    (hbegun : s.session.notes.begun = []) (hnotes : s₁.session.notes = s.session.notes)
    (hwhole : Record.completeLength source = .ok (some length))
    (hfeed : feed (P.watched V.output) s₁.session (source.take length) = (fed, .ok ()))
    (hprocess : (P.watched V.output).process fed = (processed, result))
    (hleft : s'.session.notes = processed.notes) :
    Feeds s source [source.take length] s' := by
  obtain ⟨hdeclared, hlength⟩ := Record.declared?_of_completeLength hwhole
  rw [← hnotes] at hbegun
  refine ⟨?_, List.forall_mem_singleton.mpr (Record.isRecord_take hdeclared hlength), ?_⟩
  · rw [hleft, processed_watched hbegun hfeed hprocess, hnotes]
  · rw [List.flatten_singleton]
    exact List.take_prefix _ _

/-- A record in a session in which nothing waits is absorbed. -/
theorem Tracks.opened (h : V.Lawful P live) (hs : Tracks P V live start s read sent)
    (hplaintext : V.plaintext s.session.session = []) (houtput : V.output s.session.session = [])
    {record : Bytes} (hrecord : Record.IsRecord record) {fed processed : Watched ρ}
    {progress : Progress} (hfeed : feed (P.watched V.output) s.session record = (fed, .ok ()))
    (hprocess : (P.watched V.output).process fed = (processed, .ok progress)) :
    Tracks P V live start ⟨processed, progress.plaintext, progress.peerClosed⟩ read sent := by
  have hplain := (annotated_process hprocess).1
  have hnotes := processed_watched hs.begun hfeed hprocess
  obtain ⟨hlive, hcount, hquiet⟩ :=
    h.processed _ _ _ _ _ hs.live hplaintext houtput hrecord (feed_annotated hfeed) hplain
  refine ⟨hlive, congrArg Watch.begun hnotes, hcount, hquiet, ?_⟩
  have habsorbed := hs.absorbed
  rw [h.emptied _ hs.live hplaintext houtput, hplaintext, houtput, List.append_nil,
    List.append_nil] at habsorbed
  simp only [hnotes, absorbAll_concat, habsorbed, absorb, feed_annotated hfeed, hplain]

theorem Tracks.plaintext_ne_nil (hs : Tracks P V live start s read sent) :
    V.plaintext s.session.session ≠ [] ↔ 0 < s.pending := by
  rw [hs.pending, List.length_pos_iff]

/-- What an unwrap comes to that succeeds when no output waits. -/
structure Unwrapped (P : Provider ρ) (V : View ρ) (live : ρ → Prop) (start : ρ)
    (s : State (Watched ρ)) (source read sent : Bytes) (a : Answer (State (Watched ρ)))
    (r : Report) : Prop where
  fed : ∃ records, Feeds s source records a.engine ∧ records.flatten = source.take r.consumed
  tracks : Tracks P V live start a.engine (read ++ a.written) sent
  overflow : r.status = .overflow ↔ V.plaintext a.engine.session.session ≠ []
  stopped : r.status = .underflow ∨ r.status = .closed → V.output a.engine.session.session = []

variable {source : Bytes} {room : Nat} {a : Answer (State (Watched ρ))}

/-- The engine hands out what waits, or feeds the one record that stands whole in front. -/
theorem Tracks.unwrapOk (h : V.Lawful P live) (hs : Tracks P V live start s read sent)
    (houtput : V.output s.session.session = []) {r : Report}
    (hok : UnwrapOk (P.watched V.output) s source room a r) :
    Unwrapped P V live start s source read sent a r := by
  cases hok with
  | handedOut delivered stops =>
    obtain ⟨hs₁, houtput₁, hnotes⟩ := hs.deliver h delivered
    exact ⟨⟨[], feeds_none (congrArg Watch.fed hnotes), rfl⟩, hs₁,
      stops.overflow_iff.trans hs₁.plaintext_ne_nil.symm, fun _ => houtput₁.trans houtput⟩
  | opened delivered pending peer whole taken handled delivered' =>
    obtain ⟨hdeclared, hwhole⟩ := Record.declared?_of_completeLength whole
    have hrecord := Record.isRecord_take hdeclared hwhole
    obtain ⟨hs₁, houtput₁, hnotes₁⟩ := hs.deliver h delivered
    have hplaintext : V.plaintext _ = [] :=
      not_not.mp (mt hs₁.plaintext_ne_nil.mp (Nat.not_lt_of_le (Nat.le_of_eq pending)))
    have hopened := hs₁.opened h hplaintext (houtput₁.trans houtput) hrecord taken handled
    obtain ⟨hs₂, -, hnotes₂⟩ := hopened.deliver h delivered'
    rw [List.append_assoc] at hs₂
    refine ⟨⟨_, feeds_processed hs.begun hnotes₁ whole taken handled hnotes₂, ?_⟩, hs₂,
      (unwrapStatus_eq_overflow _).trans hs₂.plaintext_ne_nil.symm, fun hended => ?_⟩
    · rw [List.flatten_singleton, (length_opened whole).1]
    · exact hs₂.quiet (.inr (peerClosed_of_unwrapStatus hended))

/-- An unwrap that fails has fed a record or none. -/
theorem Tracks.unwrapFailed (hs : Tracks P V live start s read sent) {e : EngineError}
    (hfailed : UnwrapFailed (P.watched V.output) s source room a e) :
    ∃ records, Feeds s source records a.engine := by
  have hdelivered : ∀ {s s' : State (Watched ρ)} {room : Nat} {result : Except EngineError Bytes},
      Tls.deliver (P.watched V.output) s room = (s', result) →
        s'.session.notes = s.session.notes := by
    intro s s' room result hdeliver
    rw [← notes_deliver (P := P) (.watch V.output) s room, hdeliver]
  cases hfailed with
  | unread failed => exact ⟨[], feeds_none (congrArg Watch.fed (hdelivered failed))⟩
  | rejected delivered => exact ⟨[], feeds_none (congrArg Watch.fed (hdelivered delivered))⟩
  | @refused s₁ fed earlier length e delivered pending peer whole failed =>
    have hfed := fed_feed P V.output s₁.session (source.take length)
    rw [failed, hdelivered delivered] at hfed
    exact ⟨[], feeds_none hfed⟩
  | unprocessed delivered pending peer whole taken failed =>
    exact ⟨_, feeds_processed hs.begun (hdelivered delivered) whole taken failed rfl⟩
  | undelivered delivered pending peer whole taken handled failed =>
    exact ⟨_, feeds_processed hs.begun (hdelivered delivered) whole taken handled
      (hdelivered failed)⟩

/-- What a wrap comes to that succeeds when output waits: it is flushed and nothing else is done. -/
structure Wrapped (P : Provider ρ) (V : View ρ) (live : ρ → Prop) (start : ρ)
    (s : State (Watched ρ)) (read sent : Bytes) (a : Answer (State (Watched ρ))) (r : Report) :
    Prop where
  consumed : r.consumed = 0
  tracks : Tracks P V live start a.engine read (sent ++ a.written)
  plaintext : V.plaintext a.engine.session.session = V.plaintext s.session.session
  overflow : r.status = .overflow → V.output a.engine.session.session ≠ []

theorem Tracks.wrapOk (h : V.Lawful P live) (hs : Tracks P V live start s read sent)
    (houtput : V.output s.session.session ≠ []) {r : Report}
    (hok : WrapOk (P.watched V.output) s source room a r) :
    Wrapped P V live start s read sent a r := by
  have hwanted : (P.watched V.output).wantsWrite s.session = true :=
    (h.wantsWrite _ hs.live).mpr houtput
  have hleft := hok.wanted_iff
  cases hok with
  | idle unwanted => exact absurd hwanted unwanted
  | flushed wanted smooth =>
    obtain ⟨hs', hplaintext⟩ := hs.flush h smooth
    exact ⟨rfl, hs', hplaintext, fun hoverflow => (h.wantsWrite _ hs'.live).mp (hleft.mp hoverflow)⟩
  | wrote unwanted established taken smooth => exact absurd hwanted unwanted

end

end RecordLayer.Tls
