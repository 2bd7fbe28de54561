import RecordLayer.Proofs.Series
import RecordLayer.Proofs.Symbolic.Sending

/-!
# Plaintext is protected once

In a series of wraps on an engine itself, plaintext is only taken when no output waits, and then the
output for it is handed out bit by bit. So every byte that is taken is protected once and in order,
whatever the regions are, and a call that is repeated because it overflowed takes nothing twice.

* `WrapOk.takes`, `Queues.wrapOk` and `Queues.wrapFailed` say what a wrap does when flushing does
  not fail;
* `Protecting` is the account of a series, and `Protecting.wrapped` what one more call does to it;
* `protected_once` is the account of every series.
-/

namespace RecordLayer.Tls

variable {ρ : Type} {P : Provider ρ} {output : ρ → Bytes} {live : ρ → Prop}

/-! ### One wrap -/

/-- The sessions that are relied on stay such when they are given plaintext. -/
def WritesKeep (P : Provider ρ) (live : ρ → Prop) : Prop :=
  ∀ s bs, live s → live (P.writePlaintext s bs).1

section

variable {s : State ρ} {source : Bytes} {room : Nat} {a : Answer (State ρ)}

/-- Plaintext is taken only behind the handshake and when nothing waits. -/
theorem WrapOk.takes {r : Report} (hok : WrapOk P s source room a r) (htakes : r.consumed ≠ 0) :
    P.wantsWrite s.session ≠ true ∧ P.isHandshaking s.session = false := by
  cases hok with
  | idle unwanted => exact absurd rfl htakes
  | flushed wanted smooth => exact absurd rfl htakes
  | wrote unwanted established taken smooth => exact ⟨unwanted, established⟩

/-- A wrap leads to a session that can be relied on, and overflows if it has left some output. -/
theorem Queues.wrapOk (h : Queues P output live) (hkeep : WritesKeep P live) (hs : live s.session)
    {r : Report} (hok : WrapOk P s source room a r) :
    live a.engine.session ∧ (r.status = .overflow ↔ output a.engine.session ≠ []) := by
  have hlive : live a.engine.session := by
    cases hok with
    | idle unwanted => exact hs
    | flushed wanted smooth => exact (h.flush hs room).2.2.2
    | wrote unwanted established taken smooth =>
      have hwritten := hkeep s.session source hs
      rw [taken] at hwritten
      exact (h.flush hwritten room).2.2.2
  exact ⟨hlive, hok.wanted_iff.trans (h.wantsWrite _ hlive)⟩

/-- A wrap fails only if the session does not take plaintext that it is given. -/
theorem Queues.wrapFailed (h : Queues P output live) (hkeep : WritesKeep P live)
    (hs : live s.session) {e : EngineError} (hfailed : WrapFailed P s source room a e) :
    output s.session = [] ∧ ∃ text session, e = .io text ∧
      P.writePlaintext s.session source = (session, .error text) ∧
      a = ⟨{ s with session }, [], .error (.io text)⟩ := by
  cases hfailed with
  | unflushed wanted failed =>
    rw [(h.flush hs room).1] at failed
    cases failed
  | refused unwanted failed =>
    exact ⟨h.output_eq_nil hs unwanted, _, _, rfl, failed, rfl⟩
  | unsent unwanted taken failed =>
    have hwritten := hkeep s.session source hs
    rw [taken] at hwritten
    rw [(h.flush hwritten room).1] at failed
    cases failed

end

/-! ### The account of a series -/

/-- The account of a series: what was produced and what still waits is what waited at the start and
what was queued since, and what was consumed is what the session has accepted. -/
structure Protecting (output : ρ → Bytes) (live : ρ → Prop) (start given consumed : Bytes)
    (s : State (Watched ρ)) : Prop where
  live : live s.session.session
  account : given ++ output s.session.session = start ++ s.session.notes.generated
  consumed : consumed = s.session.notes.accepted

section

variable {start given consumed : Bytes} {s : State (Watched ρ)}

theorem protecting_watch {s : State ρ} (hs : live s.session) :
    Protecting output live (output s.session) [] [] s.watch where
  live := hs
  account := (List.append_nil _).symm
  consumed := rfl

/-- Flushing moves output from what waits to what was given. -/
theorem Protecting.flushed (hs : Protecting output live start given consumed s)
    (h : Queues P output live) (room : Nat) :
    Protecting output live start (given ++ (flush (P.watched output) s.session room).written)
      consumed { s with session := (flush (P.watched output) s.session room).session } := by
  obtain ⟨-, -, houtput, hlive⟩ := (h.annotated (.watch output)).flush hs.live room
  have hnotes := notes_flush (P := P) (.watch output) s.session room
  refine ⟨hlive, ?_, ?_⟩
  · rw [List.append_assoc, ← houtput, hnotes]
    exact hs.account
  · rw [hnotes]
    exact hs.consumed

/-- Writing when nothing waits queues the output for what was taken. -/
theorem Protecting.wrote (hs : Protecting output live start given consumed s)
    (hkeep : WritesKeep P live) (hnothing : output s.session.session = []) {source : Bytes}
    {session : Watched ρ} {result : Except String Nat}
    (hwrite : (P.watched output).writePlaintext s.session source = (session, result)) :
    Protecting output live start given (consumed ++ taken source result) { s with session } := by
  have hlive := hkeep s.session.session source hs.live
  have haccount := hs.account
  cases hwrite
  -- Nothing waits, so all that is queued behind the write was queued for it.
  rw [hnothing, List.append_nil] at haccount
  refine ⟨hlive, ?_, congrArg (· ++ _) hs.consumed⟩
  show given ++ output (P.writePlaintext s.session.session source).1 =
    start ++ (s.session.notes.generated ++ _)
  rw [hnothing, List.length_nil, List.drop_zero, ← List.append_assoc, haccount]

/-- One more wrap, whichever way it goes. -/
theorem Protecting.wrapped (hs : Protecting output live start given consumed s)
    (h : Queues P output live) (hkeep : WritesKeep P live) (o : Offer) :
    let c := (engine (P.watched output)).serve .wrap s o
    Protecting output live start (given ++ c.produced) (consumed ++ c.consumed) c.left := by
  intro c
  have hways : (∃ r, c.answer.report = .ok r ∧ WrapOk (P.watched output) s o.source
      o.destination.length c.answer r) ∨ ∃ e, c.answer.report = .error e ∧
      WrapFailed (P.watched output) s o.source o.destination.length c.answer e :=
    wrap_cases _ _ _ _
  rcases hways with ⟨r, hreport, hok⟩ | ⟨e, hreport, hfailed⟩
  · obtain ⟨hcount, hroom⟩ := hok.produced
    rw [Served.produced_of_ok hreport hcount hroom, Served.consumed_of_ok hreport, Served.left]
    generalize c.answer = a at hok
    cases hok with
    | idle unwanted =>
      show Protecting output live start (given ++ []) (consumed ++ []) s
      rw [List.append_nil, List.append_nil]
      exact hs
    | flushed wanted smooth =>
      show Protecting output live start _ (consumed ++ []) _
      rw [List.append_nil]
      exact hs.flushed h _
    | wrote unwanted established taken smooth =>
      exact (hs.wrote hkeep (h.output_eq_nil hs.live unwanted) taken).flushed h _
  · obtain ⟨hnothing, text, session, -, hrefused, hanswer⟩ :=
      (h.annotated (.watch output)).wrapFailed (fun w bs hw => hkeep w.session bs hw) hs.live
        hfailed
    have hwritten := hs.wrote hkeep hnothing hrefused
    rw [Served.produced_of_error hreport, Served.consumed_of_error hreport, List.append_nil,
      Served.left, hanswer]
    exact hwritten

end

/-! ### Series -/

/-- By induction on the series. -/
theorem protecting_series (h : Queues P output live) (hkeep : WritesKeep P live) {s : State ρ}
    (hs : live s.session) (offers : List Offer) :
    let cs := (engine (P.watched output)).series .wrap s.watch offers
    Protecting output live (output s.session) (cs.flatMap Served.produced)
        (cs.flatMap Served.consumed)
        ((engine (P.watched output)).afterSeries .wrap s.watch offers) ∧
      ∀ c ∈ cs, live c.found.session.session := by
  refine Engine.series_invariant (engine (P.watched output)) .wrap s.watch
    (motive := fun cs left =>
      Protecting output live (output s.session) (cs.flatMap Served.produced)
        (cs.flatMap Served.consumed) left ∧ ∀ c ∈ cs, live c.found.session.session) ?_ ?_ offers
  · exact ⟨protecting_watch hs, List.forall_mem_nil _⟩
  · rintro cs found o ⟨hfound, hlive⟩
    simp only [List.flatMap_append, List.flatMap_singleton]
    rw [List.forall_mem_append, List.forall_mem_singleton]
    exact ⟨hfound.wrapped h hkeep o, hlive, hfound.live⟩

/-- In a series of wraps, the bytes produced and the output that still waits are the output that
waited at the start and what was queued for the plaintext accepted, which is the plaintext consumed.
A call that succeeds consumes plaintext only behind the handshake and when nothing waited, and it
overflows exactly if output still waits. A call fails only if the session does not take plaintext
that it is given. -/
theorem protected_once (h : Queues P output live) (hkeep : WritesKeep P live) {s : State ρ}
    (hs : live s.session) (offers : List Offer) :
    let cs := (engine P).series .wrap s offers
    let left := (engine P).afterSeries .wrap s offers
    let watched := (engine (P.watched output)).afterSeries .wrap s.watch offers
    (cs.flatMap Served.produced ++ output left.session =
        output s.session ++ watched.session.notes.generated ∧
      cs.flatMap Served.consumed = watched.session.notes.accepted ∧ watched.plain = left) ∧
    ∀ c ∈ cs,
      (∀ r, c.answer.report = .ok r →
        (r.consumed ≠ 0 → output c.found.session = [] ∧ P.isHandshaking c.found.session = false) ∧
        (r.status = .overflow ↔ output c.left.session ≠ [])) ∧
      ∀ e, c.answer.report = .error e → output c.found.session = [] ∧ ∃ text, e = .io text ∧
        P.writePlaintext c.found.session c.offer.source = (c.left.session, .error text) := by
  intro cs left watched
  have hsimulates := plain_simulates P (.watch output)
  have hcs : cs = ((engine (P.watched output)).series .wrap s.watch offers).map
      (Served.map State.plain) := Engine.series_simulates hsimulates .wrap s.watch offers
  have hleft : left = watched.plain :=
    Engine.afterSeries_simulates hsimulates .wrap s.watch offers
  obtain ⟨hprotecting, hlive⟩ := protecting_series h hkeep hs offers
  refine ⟨⟨?_, ?_, hleft.symm⟩, ?_⟩
  · rw [hcs, hleft, List.flatMap_map]
    exact hprotecting.account
  · rw [hcs, List.flatMap_map]
    exact hprotecting.consumed
  · intro c hc
    have hfound : live c.found.session := by
      rw [hcs] at hc
      obtain ⟨c', hc', rfl⟩ := List.mem_map.mp hc
      exact hlive c' hc'
    have hserved : c.answer = wrap P c.found c.offer.source c.offer.destination.length :=
      congrArg Served.answer (Engine.mem_series hc)
    rw [Served.left, hserved]
    refine ⟨fun r hreport => ?_, fun e hreport => ?_⟩
    · have hok := wrap_ok hreport
      refine ⟨fun htakes => ?_, (h.wrapOk hkeep hfound hok).2⟩
      obtain ⟨hunwanted, hestablished⟩ := hok.takes htakes
      exact ⟨h.output_eq_nil hfound hunwanted, hestablished⟩
    · obtain ⟨hnothing, text, session, he, hrefused, hanswer⟩ :=
        h.wrapFailed hkeep hfound (wrap_failed hreport)
      rw [hanswer]
      exact ⟨hnothing, text, he, hrefused⟩

/-- An alert waits in a server that gets the same two bytes again and again, and regions that are too
small. It takes them once, when the alert is out. -/
theorem protected_once_behind_alert :
    let P := Symbolic.Server.provider
    let config : ServerConfig := ⟨[], [.tls13], [.x25519], .none, [], [], []⟩
    let s : State Symbolic.Server := ⟨.afterHandshake config .aesGcm [21, 3, 3, 0, 2, 1, 0], 0, false⟩
    let offers : List Offer :=
      [⟨[104, 105], []⟩, ⟨[104, 105], [0, 0, 0]⟩, ⟨[104, 105], [0, 0, 0, 0]⟩,
        ⟨[104, 105], [0, 0, 0, 0, 0]⟩, ⟨[104, 105], List.replicate 19 0⟩]
    let cs := (engine P).series .wrap s offers
    let left := (engine P).afterSeries .wrap s offers
    let watched := (engine (P.watched Symbolic.Party.outgoing)).afterSeries .wrap s.watch offers
    (Queues P Symbolic.Party.outgoing (fun _ => True) ∧ WritesKeep P fun _ => True) ∧
    cs.map (fun c => c.answer.report) =
      [.ok ⟨.overflow, 0, 0⟩, .ok ⟨.overflow, 0, 3⟩, .ok ⟨.ok, 0, 4⟩, .ok ⟨.overflow, 2, 5⟩,
        .ok ⟨.ok, 0, 19⟩] ∧
    (cs.flatMap Served.produced ++ left.session.outgoing =
        s.session.outgoing ++ watched.session.notes.generated ∧
      cs.flatMap Served.consumed = watched.session.notes.accepted ∧ watched.plain = left) ∧
    ∀ c ∈ cs,
      (∀ r, c.answer.report = .ok r →
        (r.consumed ≠ 0 →
          c.found.session.outgoing = [] ∧ P.isHandshaking c.found.session = false) ∧
        (r.status = .overflow ↔ c.left.session.outgoing ≠ [])) ∧
      ∀ e, c.answer.report = .error e → c.found.session.outgoing = [] ∧ ∃ text, e = .io text ∧
        P.writePlaintext c.found.session c.offer.source = (c.left.session, .error text) := by
  have hqueues : Queues Symbolic.Server.provider Symbolic.Party.outgoing fun _ => True :=
    Symbolic.Server.queues fun _ _ _ => trivial
  have hkeep : WritesKeep Symbolic.Server.provider fun _ => True := fun _ _ _ => trivial
  exact ⟨⟨hqueues, hkeep⟩, by decide +kernel, protected_once hqueues hkeep trivial _⟩

end RecordLayer.Tls
