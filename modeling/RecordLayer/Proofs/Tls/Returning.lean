import RecordLayer.Proofs.Connection.Conservation
import RecordLayer.Proofs.Symbolic.Serving
import RecordLayer.Proofs.Termination

/-!
# Reading and extracting come to an end

Over a session, none of the loops goes on for ever. An unwrap that overflows has used up a record or
some plaintext, or else was given no room, and then gets some. A wrap that overflows has used up some
output, or was given no room, or was the first to queue any. A turn of the driver has used up a
record or all of the output.

* `unwrapRank`, `wrapRank` and `turnRank` are the measures;
* `operations_end`: every read and every extraction comes to an end.
-/

namespace RecordLayer.Tls

open Outcome

variable {ρ : Type} {P : Provider ρ} {queued : ρ → Nat}

/-! ### Measures -/

/-- Three numbers, the first of which counts most. -/
def rank (first second third : Nat) : Nat ×ₗ Nat ×ₗ Nat :=
  toLex (first, toLex (second, third))

theorem rank_lt_iff {a b c a' b' c' : Nat} :
    rank a' b' c' < rank a b c ↔ a' < a ∨ a' = a ∧ (b' < b ∨ b' = b ∧ c' < c) := by
  rw [rank, rank, Prod.Lex.toLex_lt_toLex, Prod.Lex.toLex_lt_toLex]

/-- Whether there is no room. -/
def full (b : Buffer) : Nat :=
  if b.remaining = 0 then 1 else 0

/-- Unread records, then plaintext that waits. -/
def unwrapRank (t : Transfer (State ρ)) : Nat ×ₗ Nat ×ₗ Nat :=
  rank t.source.remaining t.engine.pending (full t.destination)

/-- Whether plaintext may still be taken, then output that waits. -/
def wrapRank (P : Provider ρ) (queued : ρ → Nat) (t : Transfer (State ρ)) : Nat ×ₗ Nat ×ₗ Nat :=
  rank (if P.wantsWrite t.engine.session then 0 else 1) (queued t.engine.session)
    (full t.destination)

/-- Unread records, then whether output waits. -/
def turnRank (P : Provider ρ) (h : Handshake (State ρ)) : Nat ×ₗ Nat :=
  toLex (h.inbound.remaining, if P.wantsWrite h.engine.session then 1 else 0)

theorem full_grow {t : Transfer (State ρ)} (h : t.destination.WellFormed) :
    full (Transfer.grow (engine P) t).destination = 0 := by
  have hroom : (engine P).sessionSize t.engine ≠ 0 := by
    show max Record.maxLength Record.maxPlaintext ≠ 0
    decide
  rw [full, Transfer.remaining_grown (engine P) h, if_neg hroom]

/-! ### Transfers -/

/-- The call that an accepted unwrap has made, and what it left of the source. -/
theorem unwrapOk_of_done {t : Transfer (State ρ)} {r : Report}
    (h : (Transfer.attempt (engine P) .unwrap t).verdict = .done r) :
    ∃ a, UnwrapOk P t.engine t.source.region t.destination.region.length a r ∧
      (Transfer.attempt (engine P) .unwrap t).state.engine = a.engine ∧
      (Transfer.attempt (engine P) .unwrap t).state.source.remaining =
        t.source.remaining - r.consumed := by
  obtain ⟨hreport, hengine, hsource⟩ := Transfer.attempt_done h
  exact ⟨_, unwrap_ok hreport, hengine, Buffer.remaining_advance hsource⟩

theorem wrapOk_of_done {t : Transfer (State ρ)} {r : Report}
    (h : (Transfer.attempt (engine P) .wrap t).verdict = .done r) :
    ∃ a, WrapOk P t.engine t.source.region t.destination.region.length a r ∧
      (Transfer.attempt (engine P) .wrap t).state.engine = a.engine := by
  obtain ⟨hreport, hengine, -⟩ := Transfer.attempt_done h
  exact ⟨_, wrap_ok hreport, hengine⟩

theorem unwrapRank_overflow {t : Transfer (State ρ)} (hwf : t.WellFormed) {r : Report}
    (hdone : (Transfer.attempt (engine P) .unwrap t).verdict = .done r)
    (hoverflow : r.status = .overflow) :
    unwrapRank (Transfer.grow (engine P) (Transfer.attempt (engine P) .unwrap t).state) <
      unwrapRank t := by
  obtain ⟨a, hok, hengine, hsource⟩ := unwrapOk_of_done hdone
  have hfull := full_grow (P := P) (Transfer.wellFormed_attempt (engine P) .unwrap hwf).destination
  have hregion := Buffer.length_region hwf.source
  have hroom := Buffer.length_region hwf.destination
  rw [unwrapRank, unwrapRank, rank_lt_iff, hfull, full]
  simp only [Transfer.grow, hengine, hsource]
  -- a record was taken, or else plaintext was handed out as far as there was room
  rcases hok.progress with htaken | ⟨hnone, -, hless⟩
  · omega
  · obtain ⟨hle, hless⟩ := hless hoverflow
    split <;> omega

theorem Drains.wrapRank_overflow (h : Drains P queued fun _ => True) {t : Transfer (State ρ)}
    (hwf : t.WellFormed) {r : Report}
    (hdone : (Transfer.attempt (engine P) .wrap t).verdict = .done r)
    (hoverflow : r.status = .overflow) :
    wrapRank P queued (Transfer.grow (engine P) (Transfer.attempt (engine P) .wrap t).state) <
      wrapRank P queued t := by
  obtain ⟨a, hok, hengine⟩ := wrapOk_of_done hdone
  have hfull := full_grow (P := P) (Transfer.wellFormed_attempt (engine P) .wrap hwf).destination
  have hroom := Buffer.length_region hwf.destination
  have hleft := hok.wanted_iff.mp hoverflow
  rw [wrapRank, wrapRank, rank_lt_iff, hfull, full]
  simp only [Transfer.grow, hengine, hleft, if_true]
  by_cases hwanted : P.wantsWrite t.engine.session = true
  · obtain ⟨hle, hless⟩ := h.wrapOk_progress trivial hok hwanted
    rw [if_pos hwanted]
    split <;> omega
  -- plaintext was taken, which happens once: from now on output waits
  · rw [if_neg hwanted]
    omega

theorem unwrap_ends (P : Provider ρ) (h : Handshake (State ρ)) (hwf : h.WellFormed) :
    Ends fun budget => h.unwrap (engine P) budget := by
  have hexchange : Ends fun budget =>
      Transfer.exchange (engine P) .unwrap budget ⟨h.engine, h.inbound, h.scratch⟩ :=
    Transfer.exchange_ends unwrapRank (fun _ ht _ => unwrapRank_overflow ht)
      ⟨hwf.inbound, hwf.scratch⟩
  exact (Transfer.run_ends (taskless_engine P) hexchange).image (Outcome.mapState · _)
    fun _ hended => hended

theorem Drains.run_ends (h : Drains P queued fun _ => True) (t : Transfer (State ρ))
    (hwf : t.WellFormed) : Ends fun budget => Transfer.run (engine P) .wrap budget t :=
  Transfer.run_ends (taskless_engine P)
    (Transfer.exchange_ends (wrapRank P queued) (fun _ ht _ => h.wrapRank_overflow ht) hwf)

/-! ### Turns of the driver -/

/-- A wrap that comes to a success has flushed all output. -/
theorem unwanted_of_wrap {h : Handshake (State ρ)} {budget : Nat} {r : Report}
    (hdone : (h.wrap (engine P) budget).verdict = .done r) :
    P.wantsWrite (h.wrap (engine P) budget).state.engine.session ≠ true := by
  have hrun : (Transfer.run (engine P) .wrap budget ⟨h.engine, h.scratch, h.outbound⟩).Ensures
      (fun t _ => P.wantsWrite t.engine.session ≠ true) fun _ => True := by
    apply Transfer.run_ensures (taskless_engine P)
    apply Transfer.exchange_ensures (I := fun _ => True) (fun _ _ => trivial) _ _ trivial
    intro t _
    apply Outcome.ensures_of_done
    intro r hdone
    split
    · trivial
    · next hother =>
      obtain ⟨a, hok, hengine⟩ := wrapOk_of_done hdone
      rw [hengine]
      exact mt hok.wanted_iff.mpr hother
  exact hrun.of_done hdone

/-- An unwrap that neither lacks input nor finds the peer closed has taken a record. -/
theorem remaining_of_unwrap {h : Handshake (State ρ)} (hwf : h.WellFormed) {budget : Nat}
    {r : Report} (hdone : (h.unwrap (engine P) budget).verdict = .done r)
    (hmore : ¬(r.status = .underflow ∨ r.status = .closed)) :
    (h.unwrap (engine P) budget).state.inbound.remaining < h.inbound.remaining := by
  have hrun : (Transfer.run (engine P) .unwrap budget ⟨h.engine, h.inbound, h.scratch⟩).Ensures
      (fun t r => r.status ≠ .overflow ∧
        (r.status = .ok → t.source.remaining < h.inbound.remaining)) fun _ => True := by
    apply Transfer.run_ensures (taskless_engine P)
    apply Transfer.exchange_ensures
      (I := fun t => t.WellFormed ∧ t.source.remaining ≤ h.inbound.remaining)
      (fun _ _ => trivial) _ _ ⟨⟨hwf.inbound, hwf.scratch⟩, Nat.le_refl _⟩
    rintro t ⟨ht, hle⟩
    apply Outcome.ensures_of_done
    intro r hdone
    obtain ⟨a, hok, hengine, hleft⟩ := unwrapOk_of_done hdone
    have hregion := Buffer.length_region ht.source
    split
    · refine ⟨Transfer.wellFormed_grow _ (Transfer.wellFormed_attempt _ _ ht), ?_⟩
      show (Transfer.attempt (engine P) .unwrap t).state.source.remaining ≤ _
      omega
    · next hother =>
      refine ⟨hother, fun hstatus => ?_⟩
      rcases hok.progress with htaken | ⟨-, hstopped, -⟩
      · omega
      · exact absurd hstatus hstopped
  obtain ⟨hother, hless⟩ := hrun.of_done hdone
  apply hless
  cases hstatus : r.status with
  | ok => rfl
  | overflow => exact absurd hstatus hother
  | underflow => exact absurd (.inl hstatus) hmore
  | closed => exact absurd (.inr hstatus) hmore

theorem Drains.drive_ends (h : Drains P queued fun _ => True) (hs : Handshake (State ρ))
    (hwf : hs.WellFormed) (more : Nat) :
    Ends fun budget => hs.drive (engine P) (budget + more) budget := by
  refine Handshake.drive_ends (turnRank P) ?_ ?_ hwf more
  · intro hs hwf hseen
    have hwanted := (handshakeStatus_eq_needWrap P _).mp hseen
    refine ⟨(h.run_ends _ ⟨hwf.scratch, hwf.outbound⟩).image (Outcome.mapState · _)
      fun _ hended => hended, fun budget r hdone => ?_⟩
    rw [turnRank, turnRank, Prod.Lex.toLex_lt_toLex, if_neg (unwanted_of_wrap hdone), if_pos hwanted]
    exact .inr ⟨rfl, Nat.zero_lt_one⟩
  · intro hs hwf _
    refine ⟨unwrap_ends P hs hwf, fun budget r hdone hmore => ?_⟩
    rw [turnRank, turnRank, Prod.Lex.toLex_lt_toLex]
    exact .inl (remaining_of_unwrap hwf hdone hmore)

/-! ### Operations -/

open Connection

theorem Drains.read_ends (h : Drains P queued fun _ => True) {c : Connection (State ρ)}
    (hwf : c.WellFormed) : Ends fun budget => c.read (engine P) budget :=
  Connection.read_ends (fun _ hs => receive_ends (unwrap_ends P) h.drive_ends hs) hwf

theorem Drains.extract_ends (h : Drains P queued fun _ => True) {c : Connection (State ρ)}
    (hwf : c.WellFormed) : Ends fun budget => c.extract (engine P) budget :=
  Connection.extract_ends h.run_ends hwf

/-- Whatever the buffers hold and whatever state the session is in, a read and an extraction come to
an end. So they do after every history, also one with failures. -/
theorem operations_end (h : Drains P queued fun _ => True) :
    (∀ c : Connection (State ρ), c.WellFormed →
      Ends (fun budget => c.read (engine P) budget) ∧
        Ends (fun budget => c.extract (engine P) budget)) ∧
    ∀ (s : State ρ) (spent : Nat) (commands : List Command),
      let c := after (engine P) spent (new (engine P) s) commands
      Ends (fun budget => c.read (engine P) budget) ∧
        Ends (fun budget => c.extract (engine P) budget) := by
  refine ⟨fun c hwf => ⟨h.read_ends hwf, h.extract_ends hwf⟩, fun s spent commands => ?_⟩
  have hwf := wellFormed_after (engine P) spent (wellFormed_new (engine P) s) commands
  exact ⟨h.read_ends hwf, h.extract_ends hwf⟩

/-- A server in the middle of its handshake has got two alerts, one of them malformed, and the front
of a record. A read has failed over them and left an alert of its own. -/
theorem operations_end_malformed :
    let server := Symbolic.Server.fresh 0 ⟨[], [.tls13], [.x25519], .none, [], [], []⟩
    let commands : List Command :=
      [.inject [21, 3, 3, 0, 2, 1, 90, 21, 3, 3, 0, 1, 9, 22, 3], .read, .write [104, 105]]
    let c := after Symbolic.Server.engine 9 (new Symbolic.Server.engine ⟨server, 0, false⟩) commands
    c.inbound.held ≠ [] ∧ c.engine.session.outgoing ≠ [] ∧ c.mailbox.region = [104, 105] ∧
      Drains Symbolic.Server.provider (fun s => s.outgoing.length) (fun _ => True) ∧ c.WellFormed ∧
      Ends (fun budget => c.read Symbolic.Server.engine budget) ∧
      Ends (fun budget => c.extract Symbolic.Server.engine budget) := by
  intro server commands c
  have hwf : c.WellFormed := wellFormed_after _ _ (wellFormed_new _ _) commands
  exact ⟨by decide +kernel, by decide +kernel, by decide +kernel, Symbolic.Server.drains, hwf,
    (operations_end Symbolic.Server.drains).1 c hwf⟩

end RecordLayer.Tls
