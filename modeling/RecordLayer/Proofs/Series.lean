import RecordLayer.Proofs.Runs
import RecordLayer.Proofs.Simulation

/-!
# Calls on an engine itself

Whoever drives an engine without the record layer calls it again and again, each time with a source
and a destination of his own. What an engine does in a series of such calls is what can be relied on
without a runner that grows destinations or keeps what was left of a source.

* `Offer` is what a call is offered, and `Served` a call as it went;
* `Served.consumed` and `Served.produced` are the bytes that its report speaks of;
* `Engine.series` are the calls in one direction, one for each offer, and `Engine.afterSeries` is
  the engine that they leave;
* `series_invariant` is induction on series, and `series_simulates` says that engines that behave
  alike do so in a series as well.
-/

namespace RecordLayer

variable {σ τ : Type}

/-- The bytes of the two regions of a call. -/
structure Offer where
  source : Bytes
  destination : Bytes

/-- A call with the engine that it found. -/
structure Served (σ : Type) where
  found : σ
  offer : Offer
  answer : Answer σ

namespace Served

/-- The engine that the call left. -/
def left (c : Served σ) : σ :=
  c.answer.engine

def Succeeds (c : Served σ) : Prop :=
  ∃ r, c.answer.report = .ok r

instance (c : Served σ) : Decidable c.Succeeds :=
  match h : c.answer.report with
  | .ok r => .isTrue ⟨r, h⟩
  | .error _ => .isFalse fun ⟨_, hok⟩ => by cases h.symm.trans hok

/-- The source bytes that a call reports to have taken. -/
def consumed (c : Served σ) : Bytes :=
  match c.answer.report with
  | .ok r => c.offer.source.take r.consumed
  | .error _ => []

/-- The bytes at the front of its destination that a call reports to have given. -/
def produced (c : Served σ) : Bytes :=
  match c.answer.report with
  | .ok r => (Bytes.overlay c.offer.destination c.answer.written).take r.produced
  | .error _ => []

theorem consumed_of_ok {c : Served σ} {r : Report} (h : c.answer.report = .ok r) :
    c.consumed = c.offer.source.take r.consumed := by
  simp only [consumed, h]

theorem consumed_of_error {c : Served σ} {e : EngineError} (h : c.answer.report = .error e) :
    c.consumed = [] := by
  simp only [consumed, h]

theorem produced_of_error {c : Served σ} {e : EngineError} (h : c.answer.report = .error e) :
    c.produced = [] := by
  simp only [produced, h]

/-- An answer that counts what it has written, and keeps to its destination, reports it. -/
theorem produced_of_ok {c : Served σ} {r : Report} (h : c.answer.report = .ok r)
    (hproduced : r.produced = c.answer.written.length)
    (hroom : c.answer.written.length ≤ c.offer.destination.length) :
    c.produced = c.answer.written := by
  simp only [produced, h, Bytes.overlay, List.take_of_length_le hroom, hproduced]
  exact List.take_left' rfl

/-- The call as it looks when the engine is seen through `f`. -/
def map (f : σ → τ) (c : Served σ) : Served τ :=
  ⟨f c.found, c.offer, ⟨f c.answer.engine, c.answer.written, c.answer.report⟩⟩

end Served

namespace Engine

/-- One call with the regions that it is offered. -/
def serve (E : Engine σ) (direction : Direction) (s : σ) (o : Offer) : Served σ :=
  ⟨s, o, E.call direction s o.source o.destination⟩

/-- The calls that are made one after the other. -/
def series (E : Engine σ) (direction : Direction) (s : σ) (offers : List Offer) : List (Served σ) :=
  (Runs.performed (E.serve direction) Served.left s offers).map Prod.snd

/-- The engine that a series leaves. -/
def afterSeries (E : Engine σ) (direction : Direction) (s : σ) (offers : List Offer) : σ :=
  Runs.after (E.serve direction) Served.left s offers

/-- Induction on series. -/
theorem series_invariant (E : Engine σ) (direction : Direction) (s : σ)
    {motive : List (Served σ) → σ → Prop} (start : motive [] s)
    (next : ∀ cs s o, motive cs s →
      motive (cs ++ [E.serve direction s o]) (E.serve direction s o).left)
    (offers : List Offer) :
    motive (E.series direction s offers) (E.afterSeries direction s offers) := by
  refine Runs.invariant (E.serve direction) Served.left s
    (motive := fun _ past s => motive (past.map Prod.snd) s) start ?_ offers
  intro _ past s o ih
  rw [List.map_append]
  exact next _ s o ih

/-- Every call of a series is one that the engine serves. -/
theorem mem_series {E : Engine σ} {direction : Direction} {s : σ} {offers : List Offer}
    {c : Served σ} (h : c ∈ E.series direction s offers) :
    c = E.serve direction c.found c.offer := by
  obtain ⟨p, hp, rfl⟩ := List.mem_map.mp h
  obtain ⟨_, _, -, hstep⟩ := Runs.mem_performed _ _ hp
  rw [hstep]
  rfl

section

variable {E : Engine σ} {F : Engine τ} {f : σ → τ}

theorem serve_simulates (h : E.Simulates F f) (direction : Direction) (s : σ) (o : Offer) :
    F.serve direction (f s) o = (E.serve direction s o).map f := by
  rw [serve, h.call]
  rfl

theorem series_simulates (h : E.Simulates F f) (direction : Direction) (s : σ)
    (offers : List Offer) :
    F.series direction (f s) offers = (E.series direction s offers).map (Served.map f) := by
  induction offers generalizing s with
  | nil => rfl
  | cons o offers ih =>
    show F.serve direction (f s) o :: F.series direction (F.serve direction (f s) o).left offers =
      (E.serve direction s o).map f ::
        (E.series direction (E.serve direction s o).left offers).map (Served.map f)
    rw [serve_simulates h, ← ih]
    rfl

theorem afterSeries_simulates (h : E.Simulates F f) (direction : Direction) (s : σ)
    (offers : List Offer) :
    F.afterSeries direction (f s) offers = f (E.afterSeries direction s offers) := by
  induction offers generalizing s with
  | nil => rfl
  | cons o offers ih =>
    show F.afterSeries direction (F.serve direction (f s) o).left offers =
      f (E.afterSeries direction (E.serve direction s o).left offers)
    rw [serve_simulates h, ← ih]
    rfl

end

end Engine

end RecordLayer
