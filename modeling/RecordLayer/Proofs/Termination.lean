import Mathlib.Data.Prod.Lex
import RecordLayer.Proofs.Connection.Flow

/-!
# Runs that end

The loops that depend on an engine run on a budget, and an engine may keep them busy for ever. A run
ends if every budget that is large enough brings it to one and the same outcome, with finitely many
engine calls.

* `Outcome.Ends` has one rule for each way in which outcomes are put together;
* `Transfer.exchange_ends`: a transfer ends if each overflow makes a measure smaller;
* `Handshake.drive_ends`: the driver ends if its transfers do and each of them makes a measure
  smaller;
* `Connection.read_ends` and `Connection.extract_ends` put both loops together.
-/

namespace RecordLayer

namespace Outcome

variable {σ τ ε ε' α β : Type}

/-- Every budget that is large enough brings the run to the outcome. -/
structure ComesTo (run : Nat → Outcome σ ε α) (o : Outcome σ ε α) : Prop where
  ended : o.verdict ≠ .unfinished
  stable : ∃ enough, ∀ budget, enough ≤ budget → run budget = o

/-- The run comes to an end, and a larger budget changes nothing about it. -/
def Ends (run : Nat → Outcome σ ε α) : Prop :=
  ∃ o, ComesTo run o

variable {run : Nat → Outcome σ ε α}

theorem ComesTo.exists_run {o : Outcome σ ε α} (h : ComesTo run o) : ∃ budget, run budget = o := by
  obtain ⟨enough, hstable⟩ := h.stable
  exact ⟨enough, hstable enough (Nat.le_refl _)⟩

theorem ends_const {o : Outcome σ ε α} (h : o.verdict ≠ .unfinished) : Ends fun _ => o :=
  ⟨o, h, 0, fun _ _ => rfl⟩

theorem ends_done (s : σ) (events : List Event) (a : α) :
    Ends fun _ => (⟨s, events, .done a⟩ : Outcome σ ε α) :=
  ends_const nofun

theorem Ends.shift (h : Ends run) (more : Nat) : Ends fun budget => run (budget + more) := by
  obtain ⟨o, hended, enough, hstable⟩ := h
  exact ⟨o, hended, enough, fun budget hle => hstable _ (Nat.le_add_right_of_le hle)⟩

/-- The smallest budgets do not count. -/
theorem ends_of_succ (h : Ends fun budget => run (budget + 1)) : Ends run := by
  obtain ⟨o, hended, enough, hstable⟩ := h
  refine ⟨o, hended, enough + 1, fun budget hle => ?_⟩
  obtain ⟨smaller, rfl⟩ := Nat.exists_eq_add_of_le' hle
  exact hstable _ (Nat.le_add_left _ _)

/-- What is made of outcomes ends if it makes no unfinished one of another. -/
theorem Ends.image (h : Ends run) (f : Outcome σ ε α → Outcome τ ε' β)
    (hf : ∀ o, o.verdict ≠ .unfinished → (f o).verdict ≠ .unfinished) :
    Ends fun budget => f (run budget) := by
  obtain ⟨o, hended, enough, hstable⟩ := h
  exact ⟨f o, hf o hended, enough, fun budget hle => congrArg f (hstable budget hle)⟩

/-- What follows needs to end only after a success. -/
theorem Ends.andThen {f : Nat → σ → α → Outcome σ ε β} (h : Ends run)
    (hnext : ∀ budget a, (run budget).verdict = .done a →
      Ends fun budget' => f budget' (run budget).state a) :
    Ends fun budget => (run budget).andThen (f budget) := by
  obtain ⟨o, ho⟩ := h
  obtain ⟨some, hsome⟩ := ho.exists_run
  obtain ⟨enough, hstable⟩ := ho.stable
  cases hv : o.verdict with
  | done a =>
    have hrest := hnext some a (by rw [hsome, hv])
    rw [hsome] at hrest
    obtain ⟨o', hended', enough', hstable'⟩ := hrest
    refine ⟨o'.after o.events, hended', max enough enough', fun budget hle => ?_⟩
    rw [hstable budget (Nat.le_trans (Nat.le_max_left _ _) hle), andThen_done hv,
      hstable' budget (Nat.le_trans (Nat.le_max_right _ _) hle)]
  | failed e =>
    refine ⟨⟨o.state, o.events, .failed e⟩, nofun, enough, fun budget hle => ?_⟩
    rw [hstable budget hle, andThen_failed hv]
  | unfinished => exact absurd hv ho.ended

end Outcome

open Outcome

variable {σ β : Type} {E : Engine σ}

/-! ### Transfers -/

namespace Transfer

/-- By induction on the measure: either the first call ends the transfer, or what follows is
smaller. -/
theorem exchange_ends [LT β] [WellFoundedLT β] {direction : Direction} (measure : Transfer σ → β)
    (hless : ∀ t : Transfer σ, t.WellFormed → ∀ r, (attempt E direction t).verdict = .done r →
      r.status = .overflow → measure (grow E (attempt E direction t).state) < measure t)
    {t : Transfer σ} (h : t.WellFormed) : Ends fun budget => exchange E direction budget t := by
  induction t using (InvImage.wf measure wellFounded_lt).induction with
  | h t ih =>
    apply ends_of_succ
    have hfirst : Ends fun _ => attempt E direction t := by
      apply ends_const
      rcases attempt_cases E direction t with ⟨r, _, _, -, -, -, hdone⟩ | ⟨e, -, hfailed⟩
      · rw [hdone]
        nofun
      · rw [hfailed]
        nofun
    refine hfirst.andThen fun _ r hdone => ?_
    have hwf := wellFormed_attempt E direction h
    by_cases hoverflow : r.status = .overflow
    · have hrest := ih _ (hless t h r hdone hoverflow) (wellFormed_grow E hwf)
      simp only [if_pos hoverflow]
      exact hrest.image (Outcome.after · _) fun _ hended => hended
    · simp only [if_neg hoverflow]
      exact ends_done _ _ _

theorem run_ends (hE : Taskless E) {direction : Direction} {t : Transfer σ}
    (h : Ends fun budget => exchange E direction budget t) :
    Ends fun budget => run E direction budget t := by
  refine h.andThen (f := finish E) fun _ r _ => ?_
  simp only [finish_of_taskless hE]
  exact ends_done _ _ _

end Transfer

/-! ### The driver -/

namespace Handshake

/-- By induction on the measure. Turns and transfers share one budget, so after some turns the
transfers have more of it than there are turns left. -/
theorem drive_ends [LT β] [WellFoundedLT β] (measure : Handshake σ → β)
    (hwrap : ∀ h : Handshake σ, h.WellFormed → E.handshakeStatus h.engine = .needWrap →
      Ends (fun budget => h.wrap E budget) ∧
        ∀ budget r, (h.wrap E budget).verdict = .done r →
          measure (h.wrap E budget).state < measure h)
    (hunwrap : ∀ h : Handshake σ, h.WellFormed → E.handshakeStatus h.engine = .needUnwrap →
      Ends (fun budget => h.unwrap E budget) ∧
        ∀ budget r, (h.unwrap E budget).verdict = .done r →
          ¬(r.status = .underflow ∨ r.status = .closed) →
            measure (h.unwrap E budget).state < measure h)
    {h : Handshake σ} (hwf : h.WellFormed) (more : Nat) :
    Ends fun budget => drive E (budget + more) budget h := by
  induction h using (InvImage.wf measure wellFounded_lt).induction generalizing more with
  | h h ih =>
    have hrest : ∀ next : Handshake σ, measure next < measure h → next.WellFormed →
        Ends fun budget => drive E (budget + 1 + more) budget next := by
      intro next hless hnext
      have hends := ih next hless hnext (1 + more)
      simpa only [Nat.add_assoc] using hends
    have hidle : ∀ seen, Ends fun _ =>
        (⟨h, [], .done ()⟩ : Outcome (Handshake σ) EngineError Unit).after [.turn seen] :=
      fun _ => ends_done _ _ _
    apply ends_of_succ
    simp only [drive]
    cases hseen : E.handshakeStatus h.engine with
    | needWrap =>
      obtain ⟨hends, hless⟩ := hwrap h hwf hseen
      have hall := ((hends.shift more).shift 1).andThen
        (f := fun budget h _ => drive E (budget + 1 + more) budget h) fun budget r hdone =>
          hrest _ (hless _ r hdone) ((wrap_moved E _ hwf).after hwf)
      exact hall.image (Outcome.after · _) fun _ hended => hended
    | needUnwrap =>
      obtain ⟨hends, hless⟩ := hunwrap h hwf hseen
      have hall := ((hends.shift more).shift 1).andThen
        (f := fun budget h r =>
          if r.status = .underflow ∨ r.status = .closed then ⟨h, [], .done ()⟩
          else drive E (budget + 1 + more) budget h) fun budget r hdone => ?_
      · exact hall.image (Outcome.after · _) fun _ hended => hended
      · by_cases hstop : r.status = .underflow ∨ r.status = .closed
        · simp only [if_pos hstop]
          exact ends_done _ _ _
        · simp only [if_neg hstop]
          exact hrest _ (hless _ r hdone hstop) ((unwrap_moved E _ hwf).after hwf)
    | notHandshaking => exact hidle .notHandshaking
    | needTask => exact hidle .needTask
    | finished => exact hidle .finished

end Handshake

/-! ### Connections -/

namespace Connection

theorem receive_ends
    (hunwrap : ∀ h : Handshake σ, h.WellFormed → Ends fun budget => h.unwrap E budget)
    (hdrive : ∀ h : Handshake σ, h.WellFormed → ∀ more,
      Ends fun budget => h.drive E (budget + more) budget)
    {h : Handshake σ} (hwf : h.WellFormed) : Ends fun budget => receive E budget h :=
  (hunwrap h hwf).andThen fun budget _ _ =>
    hdrive _ ((Handshake.unwrap_moved E budget hwf).after hwf) 0

theorem read_ends
    (hreceive : ∀ h : Handshake σ, h.WellFormed → Ends fun budget => receive E budget h)
    {c : Connection σ} (h : c.WellFormed) : Ends fun budget => c.read E budget := by
  rcases Nat.eq_zero_or_pos c.inbound.position with hzero | hpos
  · simp only [read_empty E _ hzero]
    exact ends_done _ _ _
  · simp only [read_full E _ hpos]
    refine (hreceive _ (wellFormed_opening E h)).image (closing c) ?_
    rintro ⟨left, events, verdict⟩ hended
    cases verdict with
    | done _ => nofun
    | failed e => nofun
    | unfinished => exact absurd rfl hended

theorem extract_ends
    (hwrap : ∀ t : Transfer σ, t.WellFormed → Ends fun budget => Transfer.run E .wrap budget t)
    {c : Connection σ} (h : c.WellFormed) : Ends fun budget => c.extract E budget := by
  rcases Nat.eq_zero_or_pos c.outbound.position with hzero | hpos
  · cases hmailbox : c.mailbox.hasRemaining with
    | false =>
      simp only [extract_idle E _ hzero hmailbox]
      exact ends_done _ _ _
    | true =>
      simp only [extract_wrap E _ hzero hmailbox]
      have hends := hwrap ⟨c.engine, c.mailbox, c.outbound.flip.clear.clear⟩
        ⟨h.mailbox, Buffer.wellFormed_clear _⟩
      refine hends.image (closingWrap c) ?_
      rintro ⟨left, events, verdict⟩ hended
      cases verdict with
      | done r => nofun
      | failed e => nofun
      | unfinished => exact absurd rfl hended
  · simp only [extract_pending E _ hpos]
    exact ends_done _ _ _

end Connection

end RecordLayer
