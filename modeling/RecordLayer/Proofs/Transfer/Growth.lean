import Mathlib.Data.List.Chain
import RecordLayer.Engine.Scripted
import RecordLayer.Proofs.Termination
import RecordLayer.Proofs.Transfer.Retries

/-!
# The room that retries are given

After an overflow the destination is resized so that its region has exactly the session size of the
engine, whether that makes it longer or shorter. So the region of the first call is the only one
that depends on the destination, and a retry that overflows is not followed by a longer region.

* `room_of_mem_tail`: the region of every call but the first has the session size;
* `Shrinks` is a measure that overflows use up, and `retries_bounded` the bound that it sets;
* `Needs` is an engine that waits for a region of a certain length, and `offered_rooms` says when it
  is offered one;
* `retry_offers_less`: a retry may be offered less than the call that overflowed.
-/

namespace RecordLayer

namespace Scripted

/-- The sizes of a script and the number of its calls stay the same. -/
structure SameBounds (s s' : Scripted) : Prop where
  packet : s'.packet = s.packet
  application : s'.application = s.application
  calls : s'.calls = s.calls

theorem sameBounds_nextAction (s : Scripted) (direction : Direction) :
    SameBounds s (s.nextAction direction).2 := by
  cases direction with
  | wrap =>
    rw [nextAction]
    split <;> exact ⟨rfl, rfl, rfl⟩
  | unwrap =>
    rw [nextAction]
    split <;> exact ⟨rfl, rfl, rfl⟩

theorem sameBounds_stepStatus (s : Scripted) : SameBounds s s.stepStatus := by
  rw [stepStatus]
  split <;> exact ⟨rfl, rfl, rfl⟩

/-- A call is counted, whether the script answers it or not. -/
theorem sameBounds_call (direction : Direction) (s : Scripted) (source destination : Bytes) :
    SameBounds { s with calls := s.calls + 1 } (call direction s source destination).engine := by
  let counted := { s.record (.call direction source destination.length) with calls := s.calls + 1 }
  by_cases hlimit : callLimit < counted.calls
  · rw [call, if_pos hlimit]
    exact ⟨rfl, rfl, rfl⟩
  · have hnext := sameBounds_nextAction counted direction
    have hstep := sameBounds_stepStatus (counted.nextAction direction).2
    rw [call, if_neg hlimit]
    exact ⟨hstep.packet.trans hnext.packet, hstep.application.trans hnext.application,
      hstep.calls.trans hnext.calls⟩

end Scripted

namespace Transfer

open Outcome

variable {σ : Type} {E : Engine σ} {direction : Direction} {t next : Transfer σ}

/-! ### One retry -/

theorem engine_retry (h : retried? E direction t = some next) :
    next.engine = (answer E direction t).engine := by
  obtain ⟨r, hdone, -, rfl⟩ := retried?_eq_some_iff.mp h
  exact (attempt_done hdone).2.1

theorem remaining_retry (ht : t.WellFormed) (h : retried? E direction t = some next) :
    next.destination.remaining = E.sessionSize next.engine := by
  obtain ⟨r, -, -, rfl⟩ := retried?_eq_some_iff.mp h
  exact remaining_grown E (wellFormed_attempt E direction ht).destination

/-- The first call may be given any room. After it, each is given the session size. -/
theorem room_of_mem_tail (ht : t.WellFormed) (budget : Nat) :
    ∀ later ∈ (stages E direction budget t).tail,
      later.destination.remaining = E.sessionSize later.engine := by
  have hstep : ∀ s next : Transfer σ, s.WellFormed → retried? E direction s = some next →
      next.WellFormed ∧ next.destination.remaining = E.sessionSize next.engine :=
    fun _ _ hs hretry => ⟨wellFormed_retry hs hretry, remaining_retry hs hretry⟩
  cases budget with
  | zero => exact List.forall_mem_nil _
  | succ budget =>
    cases hretry : retried? E direction t with
    | some next =>
      have hall := forall_mem_stages (fun s next hs => hstep s next hs.1) (hstep t next ht hretry)
        budget
      rw [stages_of_retry hretry, List.tail_cons]
      exact fun later hlater => (hall later hlater).2
    | none =>
      rw [stages_of_last hretry]
      exact List.forall_mem_nil _

theorem exchange_unfinished_of_retry (h : retried? E direction t = some next) (budget : Nat) :
    (exchange E direction (budget + 1) t).verdict = .unfinished ↔
      (exchange E direction budget next).verdict = .unfinished := by
  rw [exchange_of_retry h, verdict_after, verdict_after]

theorem attempt_ended (E : Engine σ) (direction : Direction) (t : Transfer σ) :
    (attempt E direction t).verdict ≠ .unfinished := by
  rcases attempt_cases E direction t with ⟨r, _, _, -, -, -, h⟩ | ⟨e, -, h⟩
  · rw [h]
    nofun
  · rw [h]
    nofun

/-- A budget that runs out was used up by calls, and the last of them is followed by another. -/
theorem length_stages_of_unfinished {budget : Nat}
    (h : (exchange E direction budget t).verdict = .unfinished) :
    (stages E direction (budget + 1) t).length = budget + 1 := by
  induction budget generalizing t with
  | zero =>
    cases hretry : retried? E direction t with
    | some next => rw [stages_of_retry hretry]; rfl
    | none => rw [stages_of_last hretry]; rfl
  | succ budget ih =>
    cases hretry : retried? E direction t with
    | some next =>
      rw [exchange_unfinished_of_retry hretry] at h
      rw [stages_of_retry hretry, List.length_cons, ih h]
    | none =>
      rw [exchange_of_last hretry] at h
      exact absurd h (attempt_ended E direction t)

/-! ### Tasks at the end -/

/-- A larger budget changes nothing about tasks that have been done. -/
theorem runTasks_mono (E : Engine σ) {budget larger : Nat} (hle : budget ≤ larger)
    {executed : Nat} {s : σ} (h : (runTasks E budget executed s).verdict ≠ .unfinished) :
    runTasks E larger executed s = runTasks E budget executed s := by
  induction budget generalizing larger executed s with
  | zero => exact absurd rfl h
  | succ budget ih =>
    obtain ⟨more, rfl⟩ := Nat.exists_eq_add_of_le' (Nat.le_trans (Nat.le_add_left 1 budget) hle)
    rcases hnext : E.nextTask s with ⟨s', _ | task⟩
    · simp only [runTasks, hnext]
    · rcases htask : task s' with ⟨s'', _ | e⟩
      · simp only [runTasks, hnext, htask, verdict_after] at h ⊢
        rw [ih (by omega) h]
      · simp only [runTasks, hnext, htask]

theorem runTasks_ends {E : Engine σ} {budget : Nat} {s : σ}
    (h : (runTasks E budget 0 s).verdict ≠ .unfinished) :
    Ends fun budget => runTasks E budget 0 s :=
  ⟨_, h, budget, fun _ hle => runTasks_mono E hle h⟩

theorem finish_unfinished_iff (E : Engine σ) (budget : Nat) (t : Transfer σ) (r : Report) :
    (finish E budget t r).verdict = .unfinished ↔
      E.handshakeStatus t.engine = .needTask ∧
        (runTasks E budget 0 t.engine).verdict = .unfinished := by
  rw [finish, verdict_after]
  by_cases hneeded : E.handshakeStatus t.engine = .needTask
  · rw [if_pos hneeded, Outcome.map]
    cases hv : (runTasks E budget 0 t.engine).verdict <;>
      simp [hneeded, mapState, hv, Verdict.map]
  · simp [hneeded]

theorem finish_ends (t : Transfer σ) (r : Report)
    (h : E.handshakeStatus t.engine = .needTask → Ends fun budget => runTasks E budget 0 t.engine) :
    Ends fun budget => finish E budget t r := by
  by_cases hneeded : E.handshakeStatus t.engine = .needTask
  · obtain ⟨o, hended, enough, hstable⟩ := h hneeded
    refine ⟨finish E enough t r, ?_, enough, fun budget hle => ?_⟩
    · rw [Ne, finish_unfinished_iff, hstable enough (Nat.le_refl _)]
      exact fun hboth => hended hboth.2
    · simp only [finish, hstable budget hle, hstable enough (Nat.le_refl _)]
  · simp only [finish, if_neg hneeded]
    exact ends_done _ _ _

/-- A transfer whose calls come to an end does so itself if the tasks that are then wanted do. -/
theorem run_ends_iff {enough : Nat}
    (h : (exchange E direction enough t).verdict ≠ .unfinished) :
    (Ends fun budget => run E direction budget t) ↔
      ∀ r, (exchange E direction enough t).verdict = .done r →
        E.handshakeStatus (exchange E direction enough t).state.engine = .needTask →
          Ends fun budget => runTasks E budget 0 (exchange E direction enough t).state.engine := by
  have hstable : ∀ budget, enough ≤ budget →
      exchange E direction budget t = exchange E direction enough t := fun budget hle =>
    exchange_mono E direction hle h
  constructor
  · rintro ⟨o, hended, some, hsome⟩ r hdone hneeded
    have hrun := hsome (max some enough) (Nat.le_max_left _ _)
    rw [run, hstable _ (Nat.le_max_right _ _), andThen_done hdone] at hrun
    rw [← hrun, verdict_after, Ne, finish_unfinished_iff] at hended
    exact runTasks_ends fun hunfinished => hended ⟨hneeded, hunfinished⟩
  · intro htasks
    have hexchange : Ends fun budget => exchange E direction budget t := ⟨_, h, enough, hstable⟩
    refine hexchange.andThen (f := finish E) fun budget r hdone => ?_
    have hfinished : (exchange E direction budget t).verdict ≠ .unfinished := by
      intro hunfinished
      cases hdone.symm.trans hunfinished
    have hsame : exchange E direction budget t = exchange E direction enough t := by
      rcases Nat.le_total budget enough with hle | hle
      · exact (exchange_mono E direction hle hfinished).symm
      · exact hstable budget hle
    rw [hsame] at hdone ⊢
    exact finish_ends _ r (htasks r hdone)

/-! ### Overflows that use up a measure -/

/-- A measure that every overflow makes smaller, if its region has the session size. -/
def Shrinks (E : Engine σ) (direction : Direction) (measure : σ → Nat) : Prop :=
  ∀ s source destination r, destination.length = E.sessionSize s →
    (E.call direction s source destination).report = .ok r → r.status = .overflow →
      measure (E.call direction s source destination).engine < measure s

variable {measure : σ → Nat}

theorem length_stages_le (hE : Shrinks E direction measure) (ht : t.WellFormed)
    (hroom : t.destination.remaining = E.sessionSize t.engine) (budget : Nat) :
    (stages E direction budget t).length ≤ measure t.engine + 1 := by
  induction budget generalizing t with
  | zero => exact Nat.zero_le _
  | succ budget ih =>
    cases hretry : retried? E direction t with
    | some next =>
      obtain ⟨r, hdone, hoverflow, -⟩ := retried?_eq_some_iff.mp hretry
      have hless : measure next.engine < measure t.engine := by
        rw [engine_retry hretry]
        refine hE _ _ _ r ?_ (attempt_done hdone).1 hoverflow
        rw [Buffer.length_region ht.destination, hroom]
      have hrest := ih (wellFormed_retry ht hretry) (remaining_retry ht hretry)
      rw [stages_of_retry hretry, List.length_cons]
      omega
    | none =>
      rw [stages_of_last hretry]
      exact Nat.le_add_left 1 _

/-- Whatever room the first call is given, the ones that follow it use up what it leaves. -/
theorem length_stages_le_of_answer (hE : Shrinks E direction measure) (ht : t.WellFormed)
    (budget : Nat) :
    (stages E direction budget t).length ≤ 2 + measure (answer E direction t).engine := by
  cases budget with
  | zero => exact Nat.zero_le _
  | succ budget =>
    cases hretry : retried? E direction t with
    | some next =>
      have hrest := length_stages_le hE (wellFormed_retry ht hretry)
        (remaining_retry ht hretry) budget
      rw [engine_retry hretry] at hrest
      rw [stages_of_retry hretry, List.length_cons]
      omega
    | none =>
      rw [stages_of_last hretry, List.length_singleton]
      omega

/-- Every call but the first is given exactly the session size, whatever the destination is like. If
overflows in such regions use up a measure, there are at most two calls more than the first one
leaves of it, and the transfer ends if the tasks do that it then does. -/
theorem retries_bounded (E : Engine σ) (direction : Direction) (ht : t.WellFormed) :
    (∀ budget,
      calls (run E direction budget t).events =
        (stages E direction budget t).map (nextCall E direction) ∧
      ∀ later ∈ (stages E direction budget t).tail,
        later.destination.region.length = E.sessionSize later.engine) ∧
    ∀ measure, Shrinks E direction measure →
      let m := measure (answer E direction t).engine
      let last := exchange E direction (2 + m) t
      (∀ budget, (calls (run E direction budget t).events).length ≤ 2 + m) ∧
      last.verdict ≠ .unfinished ∧
      ((Ends fun budget => run E direction budget t) ↔
        ∀ r, last.verdict = .done r → E.handshakeStatus last.state.engine = .needTask →
          Ends fun budget => runTasks E budget 0 last.state.engine) := by
  refine ⟨fun budget => ⟨calls_run E direction budget t, ?_⟩, ?_⟩
  · intro later hlater
    have hwf := wellFormed_stages ht budget later (List.mem_of_mem_tail hlater)
    rw [Buffer.length_region hwf.destination]
    exact room_of_mem_tail ht budget later hlater
  · intro measure hE m last
    have hcalls : ∀ budget, (stages E direction budget t).length ≤ 2 + m :=
      length_stages_le_of_answer hE ht
    have hended : last.verdict ≠ .unfinished := by
      intro hunfinished
      have hall := hcalls (2 + m + 1)
      rw [length_stages_of_unfinished hunfinished] at hall
      omega
    refine ⟨fun budget => ?_, hended, run_ends_iff hended⟩
    rw [calls_run, List.length_map]
    exact hcalls budget

/-- The number of calls that a script still answers is such a measure. -/
theorem shrinks_callLimit (direction : Direction) :
    Shrinks Scripted.engine direction fun s => Scripted.callLimit - s.calls := by
  intro s source destination r _ hreport _
  have hcalls := (Scripted.sameBounds_call direction s source destination).calls
  have hanswered : s.calls + 1 ≤ Scripted.callLimit := by
    by_contra hlimit
    simp only [Scripted.engine, Scripted.call, Scripted.record, if_pos (Nat.not_le.mp hlimit),
      reduceCtorEq] at hreport
  show Scripted.callLimit - (Scripted.call direction s source destination).engine.calls <
    Scripted.callLimit - s.calls
  simp only at hcalls
  omega

/-- Near its limit a script of overflows is cut off at the last call that the bound allows. -/
theorem retries_bounded_tight :
    let t : Transfer Scripted :=
      ⟨{ calls := 197, unwrapDefault := .give .overflow (some 0) (.repeated 0) },
        .ofBytes [170], .withCapacity 64⟩
    let m := Scripted.callLimit - (answer Scripted.engine .unwrap t).engine.calls
    t.WellFormed ∧ (calls (run Scripted.engine .unwrap 9 t).events).length = 2 + m ∧
      Ends fun budget => run Scripted.engine .unwrap budget t := by
  intro t m
  have ht : t.WellFormed := ⟨Buffer.wellFormed_ofBytes _, Buffer.wellFormed_withCapacity _⟩
  have hbound := (retries_bounded Scripted.engine .unwrap ht).2 _ (shrinks_callLimit .unwrap)
  refine ⟨ht, by decide +kernel, hbound.2.2.mpr fun r hdone => ?_⟩
  have hfailed : (exchange Scripted.engine .unwrap (2 + m) t).verdict =
      .failed (.misbehaved (.other "call limit")) := by
    decide +kernel
  rw [hfailed] at hdone
  cases hdone

/-! ### Regions that are long enough -/

/-- No call changes the session size. -/
def SteadySizes (E : Engine σ) : Prop :=
  ∀ direction s source destination,
    E.sessionSize (E.call direction s source destination).engine = E.sessionSize s

/-- An engine that overflows until its region has a certain length. -/
structure Needs (E : Engine σ) (direction : Direction) (need : Nat) : Prop where
  short : ∀ s source destination, destination.length < need →
    ∃ r, (E.call direction s source destination).report = .ok r ∧ r.status = .overflow ∧
      r.consumed ≤ source.length ∧ r.produced ≤ destination.length
  enough : ∀ s source destination r, need ≤ destination.length →
    (E.call direction s source destination).report = .ok r → r.status ≠ .overflow

theorem sessionSize_retry (hE : SteadySizes E) (h : retried? E direction t = some next) :
    E.sessionSize next.engine = E.sessionSize t.engine := by
  rw [engine_retry h]
  exact hE _ _ _ _

theorem sessionSize_stages (hE : SteadySizes E) (budget : Nat) :
    ∀ s ∈ stages E direction budget t, E.sessionSize s.engine = E.sessionSize t.engine :=
  forall_mem_stages (fun _ _ hs hretry => (sessionSize_retry hE hretry).trans hs) rfl budget

theorem length_stages_le_budget (E : Engine σ) (direction : Direction) (budget : Nat)
    (t : Transfer σ) : (stages E direction budget t).length ≤ budget := by
  induction budget generalizing t with
  | zero => exact Nat.le_refl _
  | succ budget ih =>
    cases hretry : retried? E direction t with
    | some next =>
      rw [stages_of_retry hretry, List.length_cons]
      exact Nat.succ_le_succ (ih next)
    | none =>
      rw [stages_of_last hretry]
      exact Nat.le_add_left 1 _

/-- The rooms that a transfer offers: the one that it starts with, and then the session size. -/
theorem prefix_rooms (hE : SteadySizes E) (ht : t.WellFormed) (budget : Nat) :
    (calls (run E direction budget t).events).map Call.room <+:
      t.destination.remaining :: List.replicate budget (E.sessionSize t.engine) := by
  rw [calls_run, List.map_map]
  cases budget with
  | zero => exact List.nil_prefix
  | succ budget =>
    let later := (stages E direction (budget + 1) t).tail
    have hstages : stages E direction (budget + 1) t = t :: later := rfl
    have hlater : later.map (Call.room ∘ nextCall E direction) =
        List.replicate later.length (E.sessionSize t.engine) := by
      rw [List.map_eq_replicate_iff]
      intro s hs
      have hsize := sessionSize_stages hE (budget + 1) s (List.mem_of_mem_tail hs)
      exact (room_of_mem_tail ht (budget + 1) s hs).trans hsize
    have hlength : later.length ≤ budget + 1 := by
      have hall := length_stages_le_budget E direction (budget + 1) t
      rw [hstages, List.length_cons] at hall
      omega
    rw [hstages, List.map_cons, hlater, List.cons_prefix_cons, List.prefix_replicate_iff,
      List.length_replicate]
    exact ⟨rfl, hlength, rfl⟩

/-- What is asked for again and again is never finished. -/
theorem exchange_unfinished {I : Transfer σ → Prop}
    (hstep : ∀ t, I t → ∃ next, retried? E direction t = some next ∧ I next) (h : I t)
    (budget : Nat) :
    (exchange E direction budget t).verdict = .unfinished ∧
      (stages E direction budget t).length = budget := by
  induction budget generalizing t with
  | zero => exact ⟨rfl, rfl⟩
  | succ budget ih =>
    obtain ⟨next, hretry, hnext⟩ := hstep t h
    obtain ⟨hunfinished, hlength⟩ := ih hnext
    refine ⟨(exchange_unfinished_of_retry hretry budget).mpr hunfinished, ?_⟩
    rw [stages_of_retry hretry, List.length_cons, hlength]

variable {need : Nat}

theorem exists_retry_of_short (hE : Needs E direction need) (ht : t.WellFormed)
    (hshort : t.destination.remaining < need) : ∃ next, retried? E direction t = some next := by
  rw [← Buffer.length_region ht.destination] at hshort
  obtain ⟨r, hreport, hoverflow, hconsumed, hproduced⟩ :=
    hE.short t.engine t.source.region t.destination.region hshort
  rw [Buffer.length_region ht.source] at hconsumed
  rw [Buffer.length_region ht.destination] at hproduced
  exact ⟨_, retried?_eq_some_iff.mpr
    ⟨r, attempt_of_counts hreport hconsumed hproduced, hoverflow, rfl⟩⟩

theorem retried?_of_enough (hE : Needs E direction need) (ht : t.WellFormed)
    (henough : need ≤ t.destination.remaining) : retried? E direction t = none := by
  rw [← Buffer.length_region ht.destination] at henough
  cases hretry : retried? E direction t with
  | some next =>
    obtain ⟨r, hdone, hoverflow, -⟩ := retried?_eq_some_iff.mp hretry
    exact absurd hoverflow (hE.enough _ _ _ r henough (attempt_done hdone).1)
  | none => rfl

/-- The second region is long enough if the first one is not. -/
theorem length_stages_le_two (hE : Needs E direction need) (hsize : SteadySizes E)
    (ht : t.WellFormed) (henough : need ≤ max t.destination.remaining (E.sessionSize t.engine))
    (budget : Nat) : (stages E direction budget t).length ≤ 2 := by
  cases budget with
  | zero => exact Nat.zero_le _
  | succ budget =>
    cases hretry : retried? E direction t with
    | none =>
      rw [stages_of_last hretry]
      exact Nat.le_add_left 1 1
    | some next =>
      have hshort : ¬need ≤ t.destination.remaining := fun hfits => by
        rw [retried?_of_enough hE ht hfits] at hretry
        cases hretry
      have hnext : need ≤ next.destination.remaining := by
        rw [remaining_retry ht hretry, sessionSize_retry hsize hretry]
        omega
      rw [stages_of_retry hretry]
      cases budget with
      | zero => exact Nat.le_add_left 1 1
      | succ budget =>
        rw [stages_of_last (retried?_of_enough hE (wellFormed_retry ht hretry) hnext)]
        exact Nat.le_refl 2

/-- A transfer offers the room that it starts with and then always the session size, whether that is
more or less. So it comes to an end with an engine that needs a region of a certain length if one of
the two is as long, and otherwise it calls the engine for ever. -/
theorem offered_rooms (hE : SteadySizes E) (direction : Direction) (ht : t.WellFormed) :
    let size := E.sessionSize t.engine
    (∀ budget, (calls (run E direction budget t).events).map Call.room <+:
      t.destination.remaining :: List.replicate budget size) ∧
    ∀ need, Needs E direction need →
      (need ≤ max t.destination.remaining size →
        (exchange E direction 2 t).verdict ≠ .unfinished ∧
          ∀ budget, (calls (run E direction budget t).events).length ≤ 2) ∧
      (max t.destination.remaining size < need → ∀ budget,
        (run E direction budget t).verdict = .unfinished ∧
          (calls (run E direction budget t).events).length = budget) := by
  intro size
  refine ⟨prefix_rooms hE ht, fun need hneed => ⟨fun henough => ?_, fun hshort budget => ?_⟩⟩
  · have htwo := length_stages_le_two hneed hE ht henough
    refine ⟨fun hunfinished => ?_, fun budget => ?_⟩
    · have hall := htwo 3
      rw [length_stages_of_unfinished hunfinished] at hall
      omega
    · rw [calls_run, List.length_map]
      exact htwo budget
  · have hstep : ∀ s : Transfer σ,
        (s.WellFormed ∧ E.sessionSize s.engine < need ∧ s.destination.remaining < need) →
        ∃ next, retried? E direction s = some next ∧ next.WellFormed ∧
          E.sessionSize next.engine < need ∧ next.destination.remaining < need := by
      rintro s ⟨hs, hsize, hroom⟩
      obtain ⟨next, hretry⟩ := exists_retry_of_short hneed hs hroom
      have hsame := sessionSize_retry hE hretry
      refine ⟨next, hretry, wellFormed_retry hs hretry, by omega, ?_⟩
      rw [remaining_retry hs hretry]
      omega
    obtain ⟨hunfinished, hlength⟩ :=
      exchange_unfinished hstep ⟨ht, by omega, by omega⟩ budget
    refine ⟨?_, by rw [calls_run, List.length_map, hlength]⟩
    rw [run, andThen_unfinished hunfinished]

/-- It overflows without giving anything until its region has the length that it needs. -/
def demanding (need size : Nat) : Engine Unit where
  call _ _ _ destination :=
    ⟨(), [], .ok ⟨if destination.length < need then .overflow else .ok, 0, 0⟩⟩
  handshakeStatus _ := .notHandshaking
  nextTask _ := ((), none)
  packetSize _ := size
  applicationSize _ := size
  peerCertificates _ := none

theorem needs_demanding (direction : Direction) (need size : Nat) :
    Needs (demanding need size) direction need where
  short _ _ destination hshort :=
    ⟨⟨.overflow, 0, 0⟩, by simp only [demanding, if_pos hshort], rfl, Nat.zero_le _, Nat.zero_le _⟩
  enough _ _ destination r henough hreport := by
    simp only [demanding, if_neg (Nat.not_lt.mpr henough)] at hreport
    cases hreport
    nofun

/-- The region that is needed is as long as the session size, or longer than both. -/
theorem offered_rooms_demanding :
    let t : Transfer Unit := ⟨(), .ofBytes [], .withCapacity 6⟩
    t.WellFormed ∧
    (calls (run (demanding 8 8) .wrap 3 t).events).map Call.room = [6, 8] ∧
    (exchange (demanding 8 8) .wrap 2 t).verdict ≠ .unfinished ∧
    (calls (run (demanding 8 4) .wrap 3 t).events).map Call.room = [6, 4, 4] ∧
    ∀ budget, (run (demanding 8 4) .wrap budget t).verdict = .unfinished := by
  intro t
  have ht : t.WellFormed := ⟨Buffer.wellFormed_ofBytes _, Buffer.wellFormed_withCapacity _⟩
  have hsteady : ∀ size, SteadySizes (demanding 8 size) := fun _ _ _ _ _ => rfl
  have hlong := (offered_rooms (hsteady 8) .wrap ht).2 8 (needs_demanding .wrap 8 8)
  have hshort := (offered_rooms (hsteady 4) .wrap ht).2 8 (needs_demanding .wrap 8 4)
  exact ⟨ht, by decide +kernel, (hlong.1 (by decide +kernel)).1, by decide +kernel,
    fun budget => (hshort.2 (by decide +kernel) budget).1⟩

/-- What a growth of the destination would give: a region that is no shorter, and longer if the call
before gave nothing. -/
def Widens (previous next : Call) : Prop :=
  previous.room ≤ next.room ∧ (previous.produced = [] → previous.room < next.room)

theorem steadySizes_scripted : SteadySizes Scripted.engine := by
  intro direction s source destination
  have hsame := Scripted.sameBounds_call direction s source destination
  exact congrArg₂ max hsame.packet hsame.application

/-- A region of 64 bytes is followed by one of the session size, which is 32. -/
theorem retry_offers_less :
    let t : Transfer Scripted :=
      ⟨{ unwraps := [.give .overflow (some 0) (.repeated 0), .give .ok (some 0) (.repeated 40)] },
        .ofBytes [170], .withCapacity 64⟩
    let cs := calls (run Scripted.engine .unwrap 9 t).events
    SteadySizes Scripted.engine ∧ t.WellFormed ∧ cs.map Call.room = [64, 32] ∧
      cs.head?.map Call.produced = some [] ∧ ¬cs.IsChain Widens := by
  intro t cs
  have hrooms : cs.map Call.room = [64, 32] := by decide +kernel
  refine ⟨steadySizes_scripted,
    ⟨Buffer.wellFormed_ofBytes _, Buffer.wellFormed_withCapacity _⟩, hrooms, by decide +kernel, ?_⟩
  intro hchain
  have hgrows : (cs.map Call.room).IsChain (· ≤ ·) :=
    (List.isChain_map _).mpr (hchain.imp fun _ _ hwidens => hwidens.1)
  rw [hrooms] at hgrows
  revert hgrows
  decide

end Transfer

end RecordLayer
