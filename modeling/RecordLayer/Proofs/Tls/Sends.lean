import RecordLayer.Proofs.Connection.Flow
import RecordLayer.Proofs.Tls.Watched

/-!
# One transfer of a session that sends

After the handshake a session takes plaintext whenever no output waits, and gives its output away
bit by bit. A wrap that overflows is repeated until all output is out; it takes plaintext only once.

* `Sends` is what is relied on of the session;
* `Flushing` is the invariant of the calls of one transfer: what the destination holds and what
  still waits make up the same;
* `exchange_flushing` and `exchange_writing` are whole transfers, with a budget that is enough.
-/

namespace RecordLayer.Tls

variable {ρ : Type}

/-- What holds of the sessions in `live`, whose handshakes are over, and leads to no other ones. -/
structure Sends (P : Provider ρ) (output : ρ → Bytes) (live : ρ → Prop) : Prop
    extends Queues P output live where
  established : ∀ s, live s → P.isHandshaking s = false
  /-- When no output waits, some plaintext is taken and some output queued. -/
  written : ∀ s bs, live s → output s = [] → bs ≠ [] → ∃ s' count,
    P.writePlaintext s bs = (s', .ok count) ∧ 0 < count ∧ count ≤ bs.length ∧ output s' ≠ [] ∧
      live s'
  /-- A region that is not empty receives some of the output. -/
  moves : ∀ s room s' bs, live s → output s ≠ [] → 0 < room → P.flush s room = (s', .ok bs) →
    bs ≠ []

variable {P : Provider ρ} {output : ρ → Bytes} {live : ρ → Prop}

theorem Sends.drains (h : Sends P output live) : Drains P (fun s => (output s).length) live where
  flushed s room s' bs hs hwanted hflush := by
    have hsome := (h.wantsWrite s hs).mp hwanted
    obtain ⟨hlive, hlength, houtput, -⟩ := h.flushed s room s' bs hs hsome hflush
    refine ⟨hlive, hlength, ?_, fun hroom => h.moves s room s' bs hs hsome hroom hflush⟩
    rw [houtput, List.length_append]
    exact Nat.le_of_eq (Nat.add_comm _ _)

/-! ### The calls of one transfer -/

variable {accepted generated total : Bytes} {t : Transfer (State (Watched ρ))}

/-- What holds between the calls of a transfer that flushes. -/
structure Flushing (output : ρ → Bytes) (live : ρ → Prop) (accepted generated total : Bytes)
    (t : Transfer (State (Watched ρ))) : Prop where
  live : live t.engine.session.session
  accepted : t.engine.session.notes.accepted = accepted
  generated : t.engine.session.notes.generated = generated
  wellFormed : t.destination.WellFormed
  total : t.destination.held ++ output t.engine.session.session = total

/-- The output that waits in the engine of a transfer. -/
def waiting (output : ρ → Bytes) (t : Transfer (State (Watched ρ))) : Bytes :=
  output t.engine.session.session

/-- One call that flushes what the session of `s` has queued. -/
theorem Sends.attempt (h : Sends P output live) {t : Transfer (State (Watched ρ))}
    (hsource : t.source.WellFormed) (hdest : t.destination.WellFormed) {s : State (Watched ρ)}
    (hs : live s.session.session) {count : Nat} (hcount : count ≤ t.source.region.length)
    (hcall : wrap (P.watched output) t.engine t.source.region t.destination.region.length =
      finishWrap (P.watched output) s t.destination.region.length count) :
    (Transfer.attempt (engine (P.watched output)) .wrap t).Ensures
      (fun t' r => Flushing output live s.session.notes.accepted s.session.notes.generated
          (t.destination.held ++ output s.session.session) t' ∧
        t.source.Reads (t.source.region.take count) t'.source ∧
        (r.status = .overflow ↔ waiting output t' ≠ []) ∧
        (waiting output t').length ≤ (output s.session.session).length ∧
        (0 < t.destination.remaining → output s.session.session ≠ [] →
          (waiting output t').length < (output s.session.session).length))
      fun _ => False := by
  have hroom := Buffer.length_region hdest
  obtain ⟨hsmooth, hlength, houtput, hlive⟩ :=
    (h.toQueues.annotated (.watch output)).flush hs t.destination.region.length
  have hnotes := notes_flush (P := P) (.watch output) s.session t.destination.region.length
  have hless := (h.drains.annotated (.watch output)).flush hs hsmooth
  have hanswer : Transfer.answer (engine (P.watched output)) .wrap t =
      finishWrap (P.watched output) s t.destination.region.length count := hcall
  rw [finishWrap_of_smooth hsmooth] at hanswer
  have honest : Transfer.Honest (Transfer.answer (engine (P.watched output)) .wrap t)
      t.source.region t.destination.region.length := by
    intro r hr
    rw [hanswer] at hr ⊢
    cases hr
    exact ⟨hcount, rfl, hlength⟩
  apply Transfer.attempt_ensures hsource hdest honest
  · intro r source destination hr hreads hgains
    rw [hanswer] at hr hgains ⊢
    cases hr
    refine ⟨⟨hlive, congrArg Watch.accepted hnotes, congrArg Watch.generated hnotes,
      hgains.wellFormed, ?_⟩, hreads, ?_, hless.1, ?_⟩
    · rw [hgains.held, List.append_assoc, houtput]
    · exact (flushStatus_eq_overflow _ _).trans (h.wantsWrite _ hlive)
    · intro hpos hsome
      exact hless.2 ((h.wantsWrite _ hs).mpr hsome) (by omega)
  · intro e destination hr
    rw [hanswer] at hr
    cases hr

theorem waiting_grow (t : Transfer (State (Watched ρ))) :
    waiting output (Transfer.grow (engine (P.watched output)) t) = waiting output t := rfl

theorem Flushing.grow (h : Flushing output live accepted generated total t) :
    Flushing output live accepted generated total (Transfer.grow (engine (P.watched output)) t) := by
  have hgains : t.destination.Gains [] (Transfer.grow (engine (P.watched output)) t).destination :=
    .of_resize h.wellFormed (Nat.le_add_left _ _)
  refine ⟨h.live, h.accepted, h.generated, hgains.wellFormed, ?_⟩
  rw [hgains.held, List.append_nil]
  exact h.total

/-- After an overflow there is room. -/
theorem remaining_grow (P : Provider ρ) (output : ρ → Bytes) (hdest : t.destination.WellFormed) :
    0 < (Transfer.grow (engine (P.watched output)) t).destination.remaining := by
  rw [Transfer.remaining_grown _ hdest]
  show 0 < max Record.maxLength Record.maxPlaintext
  decide

/-- All that waits is flushed. Only the first call may find no room. -/
theorem Sends.exchange_flushing (h : Sends P output live) (hsource : t.source.WellFormed)
    (hdest : t.destination.WellFormed) (hs : live t.engine.session.session)
    (hwaiting : waiting output t ≠ []) {budget : Nat}
    (hbudget : (waiting output t).length + 1 < budget) :
    (Transfer.exchange (engine (P.watched output)) .wrap budget t).Ensures
      (fun t' _ => Flushing output live t.engine.session.notes.accepted
          t.engine.session.notes.generated (t.destination.held ++ waiting output t) t' ∧
        t.source.Reads [] t'.source ∧ waiting output t' = [])
      fun _ => False := by
  apply Transfer.exchange_terminates
    (I := fun t' => Flushing output live t.engine.session.notes.accepted
      t.engine.session.notes.generated (t.destination.held ++ waiting output t) t' ∧
      t.source.Reads [] t'.source ∧ waiting output t' ≠ [])
    (fun t' => if t'.destination.remaining = 0 then (waiting output t').length + 1
      else (waiting output t').length)
  · rintro t₁ ⟨hf, hreads, hwaiting₁⟩
    have hcall : wrap (P.watched output) t₁.engine t₁.source.region t₁.destination.region.length =
        finishWrap (P.watched output) t₁.engine t₁.destination.region.length 0 :=
      if_pos ((h.wantsWrite _ hf.live).mpr hwaiting₁)
    apply (h.attempt (hreads.wellFormed hsource) hf.wellFormed hf.live (Nat.zero_le _) hcall).imp
      _ fun _ hfalse => hfalse
    rintro t₂ r ⟨hf₂, hreads₂, hoverflow, hle, hless⟩
    rw [hf.accepted, hf.generated, hf.total] at hf₂
    have hreads' := hreads.trans hreads₂
    split
    · next hstatus =>
      have hroom := remaining_grow P output hf₂.wellFormed
      refine ⟨⟨hf₂.grow, hreads', hoverflow.mp hstatus⟩, ?_⟩
      rw [if_neg (Nat.ne_of_gt hroom), waiting_grow]
      split
      · exact Nat.lt_succ_of_le hle
      · next hsome => exact hless (Nat.pos_of_ne_zero hsome) hwaiting₁
    · next hstatus =>
      exact ⟨hf₂, hreads', not_not.mp fun hsome => hstatus (hoverflow.mpr hsome)⟩
  · exact ⟨⟨hs, rfl, rfl, hdest, rfl⟩, .refl _, hwaiting⟩
  · split <;> omega

/-- The state after plaintext was taken by a session with nothing queued. -/
def taking (output : ρ → Bytes) (s : State (Watched ρ)) (plain : Bytes) (session : ρ) :
    State (Watched ρ) :=
  { s with session :=
      ⟨session, { s.session.notes with
        accepted := s.session.notes.accepted ++ plain
        generated := s.session.notes.generated ++ output session }⟩ }

theorem Sends.wrap_writing (h : Sends P output live) {s : State (Watched ρ)}
    (hs : live s.session.session) (hnone : output s.session.session = []) {source : Bytes}
    (hsource : source ≠ []) {s' : ρ} {count : Nat}
    (hwrite : P.writePlaintext s.session.session source = (s', .ok count)) (room : Nat) :
    wrap (P.watched output) s source room =
      finishWrap (P.watched output) (taking output s (source.take count) s') room count := by
  have hwatched : (P.watched output).writePlaintext s.session source =
      ((taking output s (source.take count) s').session, .ok count) := by
    simp only [Provider.annotated, hwrite, Scribe.watch, hnone, List.length_nil, List.drop_zero]
    rfl
  have hwants : (P.watched output).wantsWrite s.session ≠ true := by
    intro hwants
    exact (h.wantsWrite _ hs).mp hwants hnone
  have hidle : ¬((P.watched output).isHandshaking s.session = true ∨ source = []) := by
    rintro (hshaking | hempty)
    · have hover : (P.watched output).isHandshaking s.session = false := h.established _ hs
      rw [hover] at hshaking
      cases hshaking
    · exact hsource hempty
  rw [wrap, if_neg hwants, if_neg hidle, hwatched]
  rfl

/-- When nothing waits, some plaintext is taken, and all that it was turned into is flushed. -/
theorem Sends.exchange_writing (h : Sends P output live) (hsource : t.source.WellFormed)
    (hdest : t.destination.WellFormed) (hs : live t.engine.session.session)
    (hwaiting : waiting output t = []) (hregion : t.source.region ≠ []) :
    ∃ count queued enough, 0 < count ∧ count ≤ t.source.region.length ∧ queued ≠ [] ∧
      (Transfer.exchange (engine (P.watched output)) .wrap enough t).Ensures
        (fun t' _ => Flushing output live
            (t.engine.session.notes.accepted ++ t.source.region.take count)
            (t.engine.session.notes.generated ++ queued) (t.destination.held ++ queued) t' ∧
          t.source.Reads (t.source.region.take count) t'.source ∧ waiting output t' = [])
        fun _ => False := by
  obtain ⟨s', count, hwrite, hpos, hcount, hqueued, hlive⟩ := h.written _ _ hs hwaiting hregion
  have hcall := h.wrap_writing hs hwaiting hregion hwrite t.destination.region.length
  refine ⟨count, output s', (output s').length + 3, hpos, hcount, hqueued, ?_⟩
  rw [Transfer.exchange]
  apply (h.attempt hsource hdest hlive hcount hcall).andThen
  rintro t₁ r ⟨hf, hreads, hoverflow, hle, -⟩
  split
  · next hstatus =>
    have hgrown := hf.grow (P := P)
    have hbudget : (waiting output t₁).length + 1 < (output s').length + 2 :=
      Nat.add_lt_add_right (Nat.lt_succ_of_le hle) 1
    have hrest := h.exchange_flushing (t := Transfer.grow (engine (P.watched output)) t₁)
      (hreads.wellFormed hsource) hgrown.wellFormed hgrown.live (hoverflow.mp hstatus) hbudget
    apply Outcome.Ensures.after
    apply hrest.imp _ fun _ hfalse => hfalse
    rintro t₂ r₂ ⟨hf₂, hreads₂, hnone₂⟩
    have hall := hreads.trans hreads₂
    have htotal : (Transfer.grow (engine (P.watched output)) t₁).destination.held ++
        waiting output (Transfer.grow (engine (P.watched output)) t₁) =
      t.destination.held ++ output s' := hgrown.total
    rw [List.append_nil] at hall
    rw [hgrown.accepted, hgrown.generated, htotal] at hf₂
    exact ⟨hf₂, hall, hnone₂⟩
  · next hstatus => exact ⟨hf, hreads, not_not.mp fun hsome => hstatus (hoverflow.mpr hsome)⟩

end RecordLayer.Tls
