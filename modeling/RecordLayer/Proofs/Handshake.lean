import RecordLayer.Handshake
import RecordLayer.Proofs.Transfer

/-!
# What the handshake driver does to its buffers

The driver makes transfers in both directions. The inbound buffer loses what unwraps took and the
outbound buffer gains what wraps gave. The scratch buffer gains what unwraps gave and is at the same
time what wraps read from, so its content is only the plaintext if no wrap took a byte.

* `Handshake.Moved` is the account of a stretch of transfers, with `Handshake.Moved.trans`;
* `Handshake.drive_moved` and `Handshake.drive_stopsAtFailure` are about whole runs of the driver;
* `Handshake.drive_ensures` is the rule for invariants of the engine and its buffers.
-/

namespace RecordLayer.Handshake

variable {σ : Type}

/-- The account of a stretch of transfers. -/
structure Moved (h : Handshake σ) (cs : List Call) (left : Handshake σ) : Prop where
  wellFormed : ∀ c ∈ cs, c.reading.WellFormed ∧ c.writing.WellFormed
  readsFrom : ReadsFrom .unwrap h.inbound.region cs
  inbound : h.inbound.Reads (consumed .unwrap cs) left.inbound
  outbound : h.outbound.Gains (produced .wrap cs) left.outbound
  scratch : left.scratch.WellFormed
  plaintext : consumed .wrap cs = [] → left.scratch.held = h.scratch.held ++ produced .unwrap cs

/-- All buffers have their cursors in order. -/
structure WellFormed (h : Handshake σ) : Prop where
  inbound : h.inbound.WellFormed
  scratch : h.scratch.WellFormed
  outbound : h.outbound.WellFormed

theorem Moved.after {h left : Handshake σ} {cs : List Call} (hm : h.Moved cs left)
    (hwf : h.WellFormed) : left.WellFormed :=
  ⟨hm.inbound.wellFormed hwf.inbound, hm.scratch, hm.outbound.wellFormed⟩

theorem Moved.refl {h : Handshake σ} (hwf : h.WellFormed) : h.Moved [] h where
  wellFormed := nofun
  readsFrom := readsFrom_nil _ _
  inbound := .refl _
  outbound := .refl hwf.outbound
  scratch := hwf.scratch
  plaintext _ := (List.append_nil _).symm

theorem Moved.trans {a b c : Handshake σ} {xs ys : List Call} (h : a.Moved xs b)
    (h' : b.Moved ys c) : a.Moved (xs ++ ys) c where
  wellFormed := by
    intro call hcall
    rcases List.mem_append.mp hcall with hcall | hcall
    · exact h.wellFormed call hcall
    · exact h'.wellFormed call hcall
  readsFrom := by
    apply h.readsFrom.append
    rw [← h.inbound.region_eq_drop]
    exact h'.readsFrom
  inbound := by
    rw [consumed_append]
    exact h.inbound.trans h'.inbound
  outbound := by
    rw [produced_append]
    exact h.outbound.trans h'.outbound
  scratch := h'.scratch
  plaintext := by
    intro hnone
    rw [consumed_append, List.append_eq_nil_iff] at hnone
    rw [h'.plaintext hnone.2, h.plaintext hnone.1, produced_append, List.append_assoc]

theorem Moved.of_wrap {h : Handshake σ} (hwf : h.WellFormed) {cs : List Call} {left : Transfer σ}
    (hm : Transfer.Moved .wrap ⟨h.engine, h.scratch, h.outbound⟩ cs left) :
    h.Moved cs
      { h with engine := left.engine, scratch := left.source, outbound := left.destination } where
  wellFormed := hm.wellFormed
  readsFrom := hm.directed.readsFrom_ne (by decide) _
  inbound := by
    rw [hm.directed.consumed_ne (by decide)]
    exact .refl _
  outbound := hm.destination
  scratch := hm.source.wellFormed hwf.scratch
  plaintext := by
    intro hnone
    have hsource := hm.source
    rw [hnone] at hsource
    rw [hm.directed.produced_ne (by decide), List.append_nil, Buffer.held, hsource.storage,
      hsource.position]
    rfl

theorem Moved.of_unwrap {h : Handshake σ} (hwf : h.WellFormed) {cs : List Call} {left : Transfer σ}
    (hm : Transfer.Moved .unwrap ⟨h.engine, h.inbound, h.scratch⟩ cs left) :
    h.Moved cs
      { h with engine := left.engine, inbound := left.source, scratch := left.destination } where
  wellFormed := hm.wellFormed
  readsFrom := hm.readsFrom
  inbound := hm.source
  outbound := by
    rw [hm.directed.produced_ne (by decide)]
    exact .refl hwf.outbound
  scratch := hm.destination.wellFormed
  plaintext _ := hm.destination.held

theorem wrap_moved (E : Engine σ) (budget : Nat) {h : Handshake σ} (hwf : h.WellFormed) :
    h.Moved (calls (h.wrap E budget).events) (h.wrap E budget).state :=
  .of_wrap hwf (Transfer.run_moved E .wrap budget hwf.scratch hwf.outbound)

theorem unwrap_moved (E : Engine σ) (budget : Nat) {h : Handshake σ} (hwf : h.WellFormed) :
    h.Moved (calls (h.unwrap E budget).events) (h.unwrap E budget).state :=
  .of_unwrap hwf (Transfer.run_moved E .unwrap budget hwf.inbound hwf.scratch)

/-- By induction on the turns: one transfer in the direction that the engine asks for, and the
account of the rest. -/
theorem drive_moved (E : Engine σ) (budget turns : Nat) {h : Handshake σ} (hwf : h.WellFormed) :
    h.Moved (calls (h.drive E budget turns).events) (h.drive E budget turns).state := by
  induction turns generalizing h with
  | zero => exact .refl hwf
  | succ turns ih =>
    rw [drive, Outcome.events_after, Outcome.state_after, calls_append]
    simp only [calls_cons, calls_nil, List.nil_append]
    split
    · have hfirst := wrap_moved E budget hwf
      rcases Outcome.andThen_cases (h.wrap E budget) (fun h _ => drive E budget turns h) with
        ⟨r, -, hnext⟩ | ⟨hstate, hevents, -⟩
      · rw [hnext, Outcome.events_after, Outcome.state_after, calls_append]
        exact hfirst.trans (ih (hfirst.after hwf))
      · rw [hstate, hevents]
        exact hfirst
    · have hfirst := unwrap_moved E budget hwf
      rcases Outcome.andThen_cases (h.unwrap E budget) (fun h (r : Report) =>
        if r.status = .underflow ∨ r.status = .closed then ⟨h, [], .done ()⟩
        else drive E budget turns h) with ⟨r, -, hnext⟩ | ⟨hstate, hevents, -⟩
      · rw [hnext, Outcome.events_after, Outcome.state_after, calls_append]
        split
        · exact hfirst.trans (.refl (hfirst.after hwf))
        · exact hfirst.trans (ih (hfirst.after hwf))
      · rw [hstate, hevents]
        exact hfirst
    · exact .refl hwf
    · exact .refl hwf
    · exact .refl hwf

/-! ### The first failure of a run of the driver -/

theorem wrap_stopsAtFailure (E : Engine σ) (budget : Nat) (h : Handshake σ) :
    (h.wrap E budget).StopsAtFailure :=
  (Transfer.run_stopsAtFailure E .wrap budget _).mapState _

theorem unwrap_stopsAtFailure (E : Engine σ) (budget : Nat) (h : Handshake σ) :
    (h.unwrap E budget).StopsAtFailure :=
  (Transfer.run_stopsAtFailure E .unwrap budget _).mapState _

theorem drive_stopsAtFailure (E : Engine σ) (budget turns : Nat) (h : Handshake σ) :
    (h.drive E budget turns).StopsAtFailure := by
  induction turns generalizing h with
  | zero => exact smooth_nil
  | succ turns ih =>
    rw [drive]
    apply Outcome.StopsAtFailure.after _ (smooth_cons rfl smooth_nil)
    split
    · exact (wrap_stopsAtFailure E budget h).andThen fun _ _ => ih _
    · refine (unwrap_stopsAtFailure E budget h).andThen fun r _ => ?_
      split
      · exact smooth_nil
      · exact ih _
    · exact smooth_nil
    · exact smooth_nil
    · exact smooth_nil

/-! ### What the driver ensures -/

/-- An invariant of the transfers that are made leads to what ends the run. -/
theorem drive_ensures {E : Engine σ} {budget : Nat} {I Q F : Handshake σ → Prop}
    (hF : ∀ h, I h → F h)
    (hwrap : ∀ h, I h → E.handshakeStatus h.engine = .needWrap →
      (h.wrap E budget).Ensures (fun h _ => I h) F)
    (hunwrap : ∀ h, I h → E.handshakeStatus h.engine = .needUnwrap →
      (h.unwrap E budget).Ensures
        (fun h r => if r.status = .underflow ∨ r.status = .closed then Q h else I h) F)
    (hidle : ∀ h, I h → E.handshakeStatus h.engine ≠ .needWrap →
      E.handshakeStatus h.engine ≠ .needUnwrap → Q h)
    (turns : Nat) {h : Handshake σ} (hI : I h) :
    (h.drive E budget turns).Ensures (fun h _ => Q h) F := by
  induction turns generalizing h with
  | zero => exact hF h hI
  | succ turns ih =>
    rw [drive]
    apply Outcome.Ensures.after
    cases hseen : E.handshakeStatus h.engine with
    | needWrap =>
      apply (hwrap h hI hseen).andThen
      intro h r hI
      exact ih hI
    | needUnwrap =>
      apply (hunwrap h hI hseen).andThen
      intro h r hnext
      split
      · next hstop =>
        rw [if_pos hstop] at hnext
        exact hnext
      · next hmore =>
        rw [if_neg hmore] at hnext
        exact ih hnext
    | notHandshaking => exact hidle h hI (by rw [hseen]; nofun) (by rw [hseen]; nofun)
    | needTask => exact hidle h hI (by rw [hseen]; nofun) (by rw [hseen]; nofun)
    | finished => exact hidle h hI (by rw [hseen]; nofun) (by rw [hseen]; nofun)

end RecordLayer.Handshake
