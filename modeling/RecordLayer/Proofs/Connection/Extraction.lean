import RecordLayer.Proofs.Connection.Flow
import RecordLayer.Proofs.Connection.History

/-!
# Extracting until nothing is left

A host extracts again and again until it gets nothing. What it gets does not depend on the budget
once that is large enough.

* `ExtractsTo` is one extraction: `extractsTo_pending`, `extractsTo_idle` and `extractsTo_wrap` are
  its cases;
* `Extracts` is a run of them, and `Extracts.history` says what a host sees of it.
-/

namespace RecordLayer.Connection

variable {σ : Type}

/-- What one extraction comes to, with every budget that is large enough. -/
def ExtractsTo (E : Engine σ) (c : Connection σ) (payload : Option Bytes) (next : Connection σ) :
    Prop :=
  ∃ enough, ∀ budget, enough ≤ budget →
    (c.extract E budget).verdict = .done payload ∧ (c.extract E budget).state = next

/-- Extracting gives the chunks one after the other, and then nothing. -/
inductive Extracts (E : Engine σ) : Connection σ → List Bytes → Connection σ → Prop
  | nothing {c final : Connection σ} (h : ExtractsTo E c none final) : Extracts E c [] final
  | chunk {c next final : Connection σ} {bs : Bytes} {chunks : List Bytes}
      (h : ExtractsTo E c (some bs) next) (rest : Extracts E next chunks final) :
      Extracts E c (bs :: chunks) final

theorem extractsTo_pending (E : Engine σ) {c : Connection σ} (h : 0 < c.outbound.position) :
    ExtractsTo E c (some c.outbound.held) { c with outbound := c.outbound.flip.clear } := by
  refine ⟨0, fun budget _ => ?_⟩
  rw [extract_pending E budget h]
  exact ⟨rfl, rfl⟩

theorem extractsTo_idle (E : Engine σ) {c : Connection σ} (h : c.outbound.position = 0)
    (hmailbox : c.mailbox.hasRemaining = false) :
    ExtractsTo E c none { c with outbound := c.outbound.flip.clear } := by
  refine ⟨0, fun budget _ => ?_⟩
  rw [extract_idle E budget h hmailbox]
  exact ⟨rfl, rfl⟩

/-- A wrap that ends with one budget ends in the same way with every larger one. -/
theorem extractsTo_wrap {E : Engine σ} (hE : Transfer.Taskless E) {c : Connection σ}
    (hzero : c.outbound.position = 0) (hmailbox : c.mailbox.hasRemaining = true) {enough : Nat}
    {Q : Transfer σ → Report → Prop}
    (h : (Transfer.exchange E .wrap enough
      ⟨c.engine, c.mailbox, c.outbound.flip.clear.clear⟩).Ensures Q fun _ => False) :
    ∃ t r, Q t r ∧ ExtractsTo E c t.destination.drain.1
      { c with engine := t.engine, mailbox := t.source, outbound := t.destination.drain.2 } := by
  obtain ⟨r, hdone, hQ⟩ := h.done
  refine ⟨_, r, hQ, enough, fun budget hle => ?_⟩
  have hended : (Transfer.exchange E .wrap enough
      ⟨c.engine, c.mailbox, c.outbound.flip.clear.clear⟩).verdict ≠ .unfinished := by
    rw [hdone]
    nofun
  rw [extract_wrap E budget hzero hmailbox, Transfer.run_mono hE .wrap hle hended, Transfer.run,
    Outcome.andThen_done hdone, Transfer.finish_of_taskless hE]
  exact ⟨rfl, rfl⟩

theorem ExtractsTo.step {E : Engine σ} {c next : Connection σ} {payload : Option Bytes}
    (h : ExtractsTo E c payload next) :
    ∃ enough, ∀ budget, enough ≤ budget →
      (c.step E budget .extract).reply = .payload payload ∧
        (c.step E budget .extract).connection = next := by
  obtain ⟨enough, h⟩ := h
  refine ⟨enough, fun budget hle => ?_⟩
  obtain ⟨hverdict, hstate⟩ := h budget hle
  refine ⟨?_, hstate⟩
  simp only [Connection.step, Step.ofOutcome, hverdict]

/-- The host sees each chunk once, in order, and then that there is nothing more. -/
theorem Extracts.history {E : Engine σ} {c final : Connection σ} {chunks : List Bytes}
    (h : Extracts E c chunks final) :
    ∃ enough, ∀ budget, enough ≤ budget →
      (history E budget c (List.replicate (chunks.length + 1) .extract)).map (·.reply) =
          chunks.map (fun bs => .payload (some bs)) ++ [.payload none] ∧
        after E budget c (List.replicate (chunks.length + 1) .extract) = final := by
  induction h with
  | nothing h =>
    obtain ⟨enough, hstep⟩ := h.step
    refine ⟨enough, fun budget hle => ?_⟩
    obtain ⟨hreply, hconnection⟩ := hstep budget hle
    exact ⟨congrArg (fun r => [r]) hreply, hconnection⟩
  | chunk h rest ih =>
    obtain ⟨enough, hstep⟩ := h.step
    obtain ⟨enough', hrest⟩ := ih
    refine ⟨max enough enough', fun budget hle => ?_⟩
    obtain ⟨hreply, hconnection⟩ := hstep budget (Nat.le_trans (Nat.le_max_left _ _) hle)
    obtain ⟨hreplies, hfinal⟩ := hrest budget (Nat.le_trans (Nat.le_max_right _ _) hle)
    rw [List.length_cons, List.replicate_succ, after_cons, hconnection, Connection.history,
      List.map_cons, hreply, hconnection, hreplies]
    exact ⟨rfl, hfinal⟩

end RecordLayer.Connection
