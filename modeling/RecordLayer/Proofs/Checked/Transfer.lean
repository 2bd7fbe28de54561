import RecordLayer.Proofs.Checked.Buffer
import RecordLayer.Proofs.Handshake

/-!
# Transfers with every index checked

Calls, transfers and turns of the driver over the checked operations of the buffers. A run comes to
nothing as soon as a check fails, and otherwise to a state and a verdict.

* `Checks` says that a run comes to the state and the verdict of an outcome, with sound buffers;
  `Checks.andThen` is the rule for what is done one after the other;
* `attempt_checks`, `run_checks` and `drive_checks`: no check fails, whatever an engine reports, as
  long as the sizes that destinations grow to are numbers that a word can hold.

The source of a transfer may stand on another storage that has the same bytes below the limit.
-/

namespace RecordLayer

/-- The size that a destination is made to grow to. -/
def Event.target : Event → Nat
  | .grown _ _ after => after
  | .call _ | .status _ | .fetched _ | .ran _ | .tasksDone _ | .turn _ | .discarded _ => 0

/-- All sizes that destinations grow to are numbers that a word can hold. -/
def GrowthFits (events : List Event) : Prop :=
  ∀ event ∈ events, event.target < wordLimit

instance (events : List Event) : Decidable (GrowthFits events) :=
  inferInstanceAs (Decidable (∀ event ∈ events, event.target < wordLimit))

theorem GrowthFits.mono {xs ys : List Event} (h : GrowthFits ys) (hfront : xs <+: ys) :
    GrowthFits xs :=
  fun event hevent => h event (hfront.subset hevent)

theorem growthFits_append {xs ys : List Event} :
    GrowthFits (xs ++ ys) ↔ GrowthFits xs ∧ GrowthFits ys :=
  List.forall_mem_append

namespace Checked

variable {σ τ τ' ε α β : Type}

/-- Goes on after a success, as long as no check fails. -/
def andThen (x : Option (σ × Verdict ε α)) (next : σ → α → Option (σ × Verdict ε β)) :
    Option (σ × Verdict ε β) := do
  let (s, verdict) ← x
  match verdict with
  | .done a => next s a
  | .failed e => some (s, .failed e)
  | .unfinished => some (s, .unfinished)

/-- The run comes to what the outcome is, seen through `f`, and its state is sound. -/
structure Checks (S : σ → Prop) (f : σ → τ) (x : Option (τ × Verdict ε α)) (o : Outcome σ ε α) :
    Prop where
  run : x = some (f o.state, o.verdict)
  sound : S o.state

variable {S : σ → Prop} {f : σ → τ} {x : Option (τ × Verdict ε α)} {o : Outcome σ ε α}

theorem Checks.after (h : Checks S f x o) (events : List Event) : Checks S f x (o.after events) :=
  ⟨h.run, h.sound⟩

theorem Checks.andThen {next' : τ → α → Option (τ × Verdict ε β)} {next : σ → α → Outcome σ ε β}
    (hfits : GrowthFits (o.andThen next).events) (h : GrowthFits o.events → Checks S f x o)
    (hnext : ∀ a, o.verdict = .done a → S o.state → GrowthFits (next o.state a).events →
      Checks S f (next' (f o.state) a) (next o.state a)) :
    Checks S f (andThen x next') (o.andThen next) := by
  have hfirst := h (hfits.mono (o.prefix_andThen next))
  rw [Checked.andThen, hfirst.run]
  cases hv : o.verdict with
  | done a =>
    rw [Outcome.andThen_done hv] at hfits ⊢
    have hrest := hnext a hv hfirst.sound (growthFits_append.mp hfits).2
    exact hrest.after _
  | failed e =>
    rw [Outcome.andThen_failed hv]
    exact ⟨rfl, hfirst.sound⟩
  | unfinished =>
    rw [Outcome.andThen_unfinished hv]
    exact ⟨rfl, hfirst.sound⟩

/-! ### Transfers -/

/-- Compares the counts of a report with the regions, and only then moves the cursors. -/
def follow (direction : Direction) (t : Transfer σ) :
    Except EngineError Report → Option (Transfer σ × Verdict EngineError Report)
  | .error e => some (t, .failed e)
  | .ok r => do
    let unread ← remaining t.source
    let room ← remaining t.destination
    if unread < r.consumed ∨ room < r.produced then
      some (t, .failed <| .misbehaved <|
        .overreported direction r.consumed r.produced unread room)
    else
      let source ← advance t.source r.consumed
      let destination ← advance t.destination r.produced
      some ({ t with source, destination }, .done r)

/-- One engine call. -/
def attempt (E : Engine σ) (direction : Direction) (t : Transfer σ) :
    Option (Transfer σ × Verdict EngineError Report) := do
  let source ← region t.source
  let given ← region t.destination
  let answer := E.call direction t.engine source given
  let destination ← fill t.destination answer.written
  follow direction { t with engine := answer.engine, destination } answer.report

def exchange (E : Engine σ) (direction : Direction) :
    Nat → Transfer σ → Option (Transfer σ × Verdict EngineError Report)
  | 0, t => some (t, .unfinished)
  | budget + 1, t =>
    andThen (attempt E direction t) fun t r =>
      if r.status = .overflow then do
        let size ← plus (E.sessionSize t.engine) t.destination.position
        let destination ← resize t.destination size
        exchange E direction budget { t with destination }
      else
        some (t, .done r)

/-- One operation of the runner. Tasks touch no buffer. -/
def run (E : Engine σ) (direction : Direction) (budget : Nat) (t : Transfer σ) :
    Option (Transfer σ × Verdict EngineError Report) :=
  andThen (exchange E direction budget t) fun t r =>
    let rest := Transfer.finish E budget t r
    some (rest.state, rest.verdict)

end Checked

namespace Transfer

variable {σ : Type}

/-- The transfer with another storage to read from. -/
def onto (storage : Bytes) (t : Transfer σ) : Transfer σ :=
  { t with source := t.source.onto storage }

theorem onto_self {storage : Bytes} {t : Transfer σ} (h : t.source.storage = storage) :
    t.onto storage = t := by
  subst h
  rfl

/-- Both buffers are sound, and the storage is as good as that of the source. -/
structure Sound (storage : Bytes) (t : Transfer σ) : Prop where
  source : t.source.Sound
  destination : t.destination.Sound
  backs : Buffer.Backs storage t.source

end Transfer

namespace Checked

variable {σ : Type} {storage : Bytes} {t : Transfer σ}

theorem attempt_eq (E : Engine σ) (direction : Direction) (h : t.Sound storage) :
    attempt E direction (t.onto storage) =
      follow direction
        (Transfer.onto storage ⟨(Transfer.answer E direction t).engine, t.source,
          (Transfer.nextCall E direction t).writing⟩)
        (Transfer.answer E direction t).report := by
  have hsource : region (t.onto storage).source = some t.source.region := by
    rw [← h.backs.region]
    exact region_eq (h.backs.wellFormed h.source.wellFormed)
  have hgiven : region (t.onto storage).destination = some t.destination.region :=
    region_eq h.destination.wellFormed
  have hwritten : ∀ bs, fill (t.onto storage).destination bs = some (t.destination.fill bs) :=
    fill_eq h.destination.wellFormed
  simp only [attempt, hsource, hgiven, hwritten, Option.bind_eq_bind, Option.bind_some]
  rfl

theorem attempt_checks (E : Engine σ) (direction : Direction) (h : t.Sound storage) :
    Checks (Transfer.Sound storage) (Transfer.onto storage)
      (attempt E direction (t.onto storage)) (Transfer.attempt E direction t) := by
  have hwritten : (Transfer.nextCall E direction t).writing.Sound := h.destination.fill _
  have hunread : remaining (t.source.onto storage) = some t.source.remaining :=
    remaining_eq (h.backs.wellFormed h.source.wellFormed)
  have hroom : remaining (Transfer.nextCall E direction t).writing =
      some (Transfer.nextCall E direction t).room := remaining_eq hwritten.wellFormed
  rw [attempt_eq E direction h]
  -- the counts that pass the comparison are those that both cursors can follow
  rcases Transfer.attempt_cases E direction t with
    ⟨r, source, destination, hreport, hsource, hdest, hdone⟩ | ⟨e, hfail, hfailed⟩
  · have hcounts : ¬(t.source.remaining < r.consumed ∨
        (Transfer.nextCall E direction t).room < r.produced) := by
      have := Buffer.le_remaining_of_advance hsource
      have := Buffer.le_remaining_of_advance hdest
      rw [Call.room]
      omega
    have hreport' : (Transfer.answer E direction t).report = .ok r := hreport
    obtain ⟨hbacks, honto⟩ := h.backs.advance hsource
    have hadvance := advance_eq (h.backs.wellFormed h.source.wellFormed) h.source.limit honto
    have hadvance' := advance_eq hwritten.wellFormed hwritten.limit hdest
    rw [hdone]
    refine ⟨?_, h.source.advance hsource, hwritten.advance hdest, hbacks⟩
    simp only [hreport', follow, Transfer.onto, hunread, hroom, if_neg hcounts, hadvance,
      hadvance', Option.bind_eq_bind, Option.bind_some]
  · rw [hfailed]
    refine ⟨?_, h.source, hwritten, h.backs⟩
    rw [Call.failure?] at hfail
    split at hfail
    · next hreport =>
      cases hfail
      have hreport' : (Transfer.answer E direction t).report = .error e := hreport
      simp only [hreport', follow]
    · next r hreport =>
      split at hfail
      · cases hfail
      · next hcounts =>
        cases hfail
        have hreport' : (Transfer.answer E direction t).report = .ok r := hreport
        have hover : t.source.remaining < r.consumed ∨
            (Transfer.nextCall E direction t).room < r.produced := by
          have hreading : (Transfer.nextCall E direction t).reading = t.source := rfl
          rw [hreading] at hcounts
          omega
        simp only [hreport', follow, Transfer.onto, hunread, hroom, if_pos hover,
          Option.bind_eq_bind, Option.bind_some]
        rfl

/-- By induction on the budget. -/
theorem exchange_checks (E : Engine σ) (direction : Direction) (budget : Nat) (h : t.Sound storage)
    (hfits : GrowthFits (Transfer.exchange E direction budget t).events) :
    Checks (Transfer.Sound storage) (Transfer.onto storage)
      (exchange E direction budget (t.onto storage)) (Transfer.exchange E direction budget t) := by
  induction budget generalizing t with
  | zero => exact ⟨rfl, h⟩
  | succ budget ih =>
    rw [Transfer.exchange] at hfits ⊢
    refine Checks.andThen hfits (fun _ => attempt_checks E direction h) fun r _ hsound hrest => ?_
    by_cases hoverflow : r.status = .overflow
    · rw [if_pos hoverflow] at hrest ⊢
      rw [if_pos hoverflow]
      -- the growth is an event of the run, so that its size is a number that a word can hold
      obtain ⟨hgrown, hrest⟩ := growthFits_append.mp hrest
      have hsize := hgrown _ List.mem_cons_self
      have hplus := plus_eq hsize
      have hresize := resize_eq hsound.destination.wellFormed
        (E.sessionSize (Transfer.attempt E direction t).state.engine +
          (Transfer.attempt E direction t).state.destination.position)
      have hgrow := ih (t := Transfer.grow E (Transfer.attempt E direction t).state)
        ⟨hsound.source, hsound.destination.resize hsize, hsound.backs⟩ hrest
      simp only [Transfer.onto, hplus, hresize, Option.bind_eq_bind, Option.bind_some]
      exact hgrow.after _
    · rw [if_neg hoverflow, if_neg hoverflow]
      exact ⟨rfl, hsound⟩

theorem finish_checks (E : Engine σ) (budget : Nat) (h : t.Sound storage) (r : Report) :
    Checks (Transfer.Sound storage) (Transfer.onto storage)
      (some ((Transfer.finish E budget (t.onto storage) r).state,
        (Transfer.finish E budget (t.onto storage) r).verdict))
      (Transfer.finish E budget t r) := by
  have hengine : (t.onto storage).engine = t.engine := rfl
  simp only [Transfer.finish, hengine]
  split
  · exact ⟨rfl, h.source, h.destination, h.backs⟩
  · exact ⟨rfl, h⟩

theorem run_checks (E : Engine σ) (direction : Direction) (budget : Nat) (h : t.Sound storage)
    (hfits : GrowthFits (Transfer.run E direction budget t).events) :
    Checks (Transfer.Sound storage) (Transfer.onto storage)
      (run E direction budget (t.onto storage)) (Transfer.run E direction budget t) := by
  rw [Transfer.run] at hfits ⊢
  exact Checks.andThen hfits (exchange_checks E direction budget h)
    fun r _ hsound _ => finish_checks E budget hsound r

/-! ### The driver -/

/-- Scratch to outbound. -/
def wrap (E : Engine σ) (budget : Nat) (h : Handshake σ) :
    Option (Handshake σ × Verdict EngineError Report) := do
  let (t, verdict) ← run E .wrap budget ⟨h.engine, h.scratch, h.outbound⟩
  some ({ h with engine := t.engine, scratch := t.source, outbound := t.destination }, verdict)

/-- Inbound to scratch. -/
def unwrap (E : Engine σ) (budget : Nat) (h : Handshake σ) :
    Option (Handshake σ × Verdict EngineError Report) := do
  let (t, verdict) ← run E .unwrap budget ⟨h.engine, h.inbound, h.scratch⟩
  some ({ h with engine := t.engine, inbound := t.source, scratch := t.destination }, verdict)

def drive (E : Engine σ) (budget : Nat) :
    Nat → Handshake σ → Option (Handshake σ × Verdict EngineError Unit)
  | 0, h => some (h, .unfinished)
  | turns + 1, h =>
    match E.handshakeStatus h.engine with
    | .needWrap => andThen (wrap E budget h) fun h _ => drive E budget turns h
    | .needUnwrap =>
      andThen (unwrap E budget h) fun h r =>
        if r.status = .underflow ∨ r.status = .closed then some (h, .done ())
        else drive E budget turns h
    | .notHandshaking | .needTask | .finished => some (h, .done ())

end Checked

namespace Handshake

variable {σ : Type}

/-- The buffers with another storage to receive from. -/
def onto (storage : Bytes) (h : Handshake σ) : Handshake σ :=
  { h with inbound := h.inbound.onto storage }

/-- All buffers are sound, and the storage is as good as that of the inbound buffer. -/
structure Sound (storage : Bytes) (h : Handshake σ) : Prop where
  inbound : h.inbound.Sound
  scratch : h.scratch.Sound
  outbound : h.outbound.Sound
  backs : Buffer.Backs storage h.inbound

end Handshake

namespace Checked

variable {σ : Type} {storage : Bytes} {h : Handshake σ}

theorem wrap_checks (E : Engine σ) (budget : Nat) (hs : h.Sound storage)
    (hfits : GrowthFits (h.wrap E budget).events) :
    Checks (Handshake.Sound storage) (Handshake.onto storage)
      (wrap E budget (h.onto storage)) (h.wrap E budget) := by
  let t : Transfer σ := ⟨h.engine, h.scratch, h.outbound⟩
  have hrun := run_checks (t := t) E .wrap budget
    ⟨hs.scratch, hs.outbound, .refl hs.scratch.wellFormed⟩ hfits
  have hmoved := Transfer.run_moved (t := t) E .wrap budget hs.scratch.wellFormed
    hs.outbound.wellFormed
  have hsame := hrun.run
  rw [Transfer.onto_self hmoved.source.storage, Transfer.onto_self rfl] at hsame
  refine ⟨?_, hs.inbound, hrun.sound.source, hrun.sound.destination, hs.backs⟩
  show (run E .wrap budget t).bind _ = _
  rw [hsame]
  rfl

theorem unwrap_checks (E : Engine σ) (budget : Nat) (hs : h.Sound storage)
    (hfits : GrowthFits (h.unwrap E budget).events) :
    Checks (Handshake.Sound storage) (Handshake.onto storage)
      (unwrap E budget (h.onto storage)) (h.unwrap E budget) := by
  let t : Transfer σ := ⟨h.engine, h.inbound, h.scratch⟩
  have hsound : t.Sound storage := ⟨hs.inbound, hs.scratch, hs.backs⟩
  have hrun := run_checks E .unwrap budget hsound hfits
  refine ⟨?_, hrun.sound.source, hrun.sound.destination, hs.outbound, hrun.sound.backs⟩
  show (run E .unwrap budget (t.onto storage)).bind _ = _
  rw [hrun.run]
  rfl

/-- By induction on the turns. -/
theorem drive_checks (E : Engine σ) (budget turns : Nat) (hs : h.Sound storage)
    (hfits : GrowthFits (h.drive E budget turns).events) :
    Checks (Handshake.Sound storage) (Handshake.onto storage)
      (drive E budget turns (h.onto storage)) (h.drive E budget turns) := by
  induction turns generalizing h with
  | zero => exact ⟨rfl, hs⟩
  | succ turns ih =>
    have hengine : (h.onto storage).engine = h.engine := rfl
    rw [Handshake.drive] at hfits ⊢
    rw [drive, hengine]
    replace hfits := (growthFits_append.mp hfits).2
    apply Checks.after
    cases hseen : E.handshakeStatus h.engine with
    | needWrap =>
      rw [hseen] at hfits
      exact Checks.andThen hfits (wrap_checks E budget hs) fun _ _ hsound hrest => ih hsound hrest
    | needUnwrap =>
      rw [hseen] at hfits
      refine Checks.andThen hfits (unwrap_checks E budget hs) fun r _ hsound hrest => ?_
      split
      · exact ⟨rfl, hsound⟩
      · next hmore =>
        rw [if_neg hmore] at hrest
        exact ih hsound hrest
    | notHandshaking => exact ⟨rfl, hs⟩
    | needTask => exact ⟨rfl, hs⟩
    | finished => exact ⟨rfl, hs⟩

end Checked

end RecordLayer
