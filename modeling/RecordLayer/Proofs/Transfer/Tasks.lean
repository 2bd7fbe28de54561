import RecordLayer.Engine.Scripted
import RecordLayer.Proofs.Transfer.Retries

/-!
# The tasks at the end of a transfer

When its last call has been accepted without an overflow, a transfer asks the engine for its status,
and if that is `needTask` it works off the tasks of the engine. An engine may change whenever it is
asked for a task, so its tasks are no list that is known beforehand: each of them is handed out by
the engine that the one before has left.

* `Errand` is a task with the engine that was asked for it, and `Errands` is a chain of errands that
  all succeed;
* `WorkedOff` lists the ways in which tasks come to an end: there is none left, one fails, or as many
  as the budget allows have been run;
* `runTasks_workedOff`: the loop over the tasks ends in one of these ways;
* `tasks_worked_off` says when a transfer asks for tasks, which ones it runs, and what it returns.
-/

namespace RecordLayer

variable {σ : Type}

/-! ### Errands -/

/-- A task, with the engine that was asked for it and the engine that handed it out. -/
structure Errand (σ : Type) where
  asked : σ
  task : Task σ
  given : σ

namespace Errand

/-- The engine that the task leaves. -/
def left (e : Errand σ) : σ :=
  (e.task e.given).1

def failure? (e : Errand σ) : Option EngineError :=
  (e.task e.given).2

/-- The engine hands out this task when it is asked. -/
def Offered (E : Engine σ) (e : Errand σ) : Prop :=
  E.nextTask e.asked = (e.given, some e.task)

/-- The task is fetched, and then it is run once. -/
def events (e : Errand σ) : List Event :=
  [.fetched true, .ran e.failure?]

theorem Offered.unique {E : Engine σ} {e e' : Errand σ} (h : e.Offered E) (h' : e'.Offered E)
    (hasked : e.asked = e'.asked) : e = e' := by
  obtain ⟨asked, task, given⟩ := e
  obtain ⟨asked', task', given'⟩ := e'
  cases hasked
  have hsame := h.symm.trans h'
  simp only [Prod.mk.injEq, Option.some.injEq] at hsame
  rw [hsame.1, hsame.2]

theorem Offered.not_exhausted {E : Engine σ} {e : Errand σ} (h : e.Offered E) {final : σ} :
    E.nextTask e.asked ≠ (final, none) := by
  rw [h]
  nofun

end Errand

/-- One errand after the other: each is offered by the engine that the one before it has left, and
all of them succeed. -/
def Errands (E : Engine σ) : σ → List (Errand σ) → σ → Prop
  | s, [], left => left = s
  | s, e :: es, left => e.asked = s ∧ e.Offered E ∧ e.failure? = none ∧ Errands E e.left es left

/-- If a chain of errands leaves no task, then no chain leads to a task that fails. -/
theorem Errands.failure?_eq_none {E : Engine σ} {s left final : σ} {es es' : List (Errand σ)}
    {e : Errand σ} (h : Errands E s es left) (hnone : E.nextTask left = (final, none))
    (h' : Errands E s es' e.asked) (hoffered : e.Offered E) : e.failure? = none := by
  induction es' generalizing s es with
  | nil =>
    have hs : e.asked = s := h'
    cases es with
    | nil =>
      have hleft : left = s := h
      rw [hleft, ← hs] at hnone
      exact absurd hnone hoffered.not_exhausted
    | cons first rest =>
      obtain ⟨hfirst, hfirstOffered, hsucceeded, -⟩ := h
      rw [hoffered.unique hfirstOffered (hs.trans hfirst.symm)]
      exact hsucceeded
  | cons first' rest' ih =>
    obtain ⟨hs, hoffered', -, hrest'⟩ := h'
    cases es with
    | nil =>
      have hleft : left = s := h
      rw [hleft, ← hs] at hnone
      exact absurd hnone hoffered'.not_exhausted
    | cons first rest =>
      obtain ⟨hfirst, hfirstOffered, -, hrest⟩ := h
      cases hoffered'.unique hfirstOffered (hs.trans hfirst.symm)
      exact ih hrest hrest'

/-- How the tasks of an engine end, if `budget` of them are allowed and `executed` have been counted
before: there is none left, one fails, or the budget is used up. -/
inductive WorkedOff (E : Engine σ) (budget executed : Nat) (s : σ) :
    Outcome σ EngineError Unit → Prop
  | exhausted {es : List (Errand σ)} {left final : σ} (chain : Errands E s es left)
      (done : E.nextTask left = (final, none)) :
      WorkedOff E budget executed s
        ⟨final, es.flatMap Errand.events ++ [.fetched false, .tasksDone (executed + es.length)],
          .done ()⟩
  | stopped {es : List (Errand σ)} {e : Errand σ} {error : EngineError}
      (chain : Errands E s es e.asked) (offered : e.Offered E) (failed : e.failure? = some error) :
      WorkedOff E budget executed s
        ⟨e.left, es.flatMap Errand.events ++ e.events, .failed error⟩
  | cut {es : List (Errand σ)} {left : σ} (chain : Errands E s es left)
      (allowed : es.length = budget) :
      WorkedOff E budget executed s ⟨left, es.flatMap Errand.events, .unfinished⟩

/-- An errand in front of those that are worked off. -/
theorem WorkedOff.cons {E : Engine σ} {budget executed : Nat} {e : Errand σ}
    {o : Outcome σ EngineError Unit} (h : WorkedOff E budget (executed + 1) e.left o)
    (hoffered : e.Offered E) (hsucceeded : e.failure? = none) :
    WorkedOff E (budget + 1) executed e.asked (o.after e.events) := by
  have hchain : ∀ es left, Errands E e.left es left → Errands E e.asked (e :: es) left :=
    fun _ _ hrest => ⟨rfl, hoffered, hsucceeded, hrest⟩
  cases h with
  | @exhausted es left final chain done =>
    have hcount : executed + (e :: es).length = executed + 1 + es.length := by
      rw [List.length_cons]
      omega
    have hall : WorkedOff E (budget + 1) executed e.asked _ :=
      .exhausted (hchain es left chain) done
    rw [hcount, List.flatMap_cons, List.append_assoc] at hall
    exact hall
  | @stopped es last error chain offered failed =>
    have hall : WorkedOff E (budget + 1) executed e.asked _ :=
      .stopped (hchain es _ chain) offered failed
    rw [List.flatMap_cons, List.append_assoc] at hall
    exact hall
  | @cut es left chain allowed => exact .cut (hchain es left chain) (congrArg (· + 1) allowed)

/-- A call, or the growth of a destination before the next one. -/
def Event.Exchanging : Event → Prop
  | .call _ | .grown _ _ _ => True
  | .status _ | .fetched _ | .ran _ | .tasksDone _ | .turn _ | .discarded _ => False

namespace Transfer

variable {E : Engine σ} {direction : Direction} {budget executed : Nat} {t : Transfer σ} {r : Report}

/-! ### The loop over the tasks -/

theorem runTasks_exhausted {s final : σ} (h : E.nextTask s = (final, none)) :
    runTasks E (budget + 1) executed s =
      ⟨final, [.fetched false, .tasksDone executed], .done ()⟩ := by
  simp only [runTasks, h]

theorem runTasks_succeeded {e : Errand σ} (h : e.Offered E) (hsucceeded : e.failure? = none) :
    runTasks E (budget + 1) executed e.asked =
      (runTasks E budget (executed + 1) e.left).after e.events := by
  have hnext : E.nextTask e.asked = (e.given, some e.task) := h
  have hrun : e.task e.given = (e.left, none) := Prod.ext rfl hsucceeded
  simp only [runTasks, hnext, hrun, Errand.events, hsucceeded]

theorem runTasks_failed {e : Errand σ} {error : EngineError} (h : e.Offered E)
    (hfailed : e.failure? = some error) :
    runTasks E (budget + 1) executed e.asked = ⟨e.left, e.events, .failed error⟩ := by
  have hnext : E.nextTask e.asked = (e.given, some e.task) := h
  have hrun : e.task e.given = (e.left, some error) := Prod.ext rfl hfailed
  simp only [runTasks, hnext, hrun, Errand.events, hfailed]

/-- An engine that is asked for a task hands out one, or has none. -/
theorem exhausted_or_offered (E : Engine σ) (s : σ) :
    (∃ final, E.nextTask s = (final, none)) ∨ ∃ e : Errand σ, e.asked = s ∧ e.Offered E := by
  rcases hnext : E.nextTask s with ⟨given, _ | task⟩
  · exact .inl ⟨given, rfl⟩
  · exact .inr ⟨⟨s, task, given⟩, rfl, hnext⟩

/-- By induction on the budget: the first task is fetched and run, and what follows starts where it
has left the engine. -/
theorem runTasks_workedOff (E : Engine σ) (budget executed : Nat) (s : σ) :
    WorkedOff E budget executed s (runTasks E budget executed s) := by
  have hnil : ∀ s, Errands E s [] s := fun _ => rfl
  induction budget generalizing executed s with
  | zero => exact .cut (hnil s) rfl
  | succ budget ih =>
    rcases exhausted_or_offered E s with ⟨final, hnone⟩ | ⟨e, rfl, hoffered⟩
    · rw [runTasks_exhausted hnone]
      exact .exhausted (hnil s) hnone
    · cases hfailure : e.failure? with
      | none =>
        rw [runTasks_succeeded hoffered hfailure]
        exact (ih (executed + 1) e.left).cons hoffered hfailure
      | some error =>
        rw [runTasks_failed hoffered hfailure]
        exact .stopped (hnil e.asked) hoffered hfailure

/-- A chain that leaves no task is run to its end, if the budget allows it. -/
theorem runTasks_of_errands {s left final : σ} {es : List (Errand σ)} (h : Errands E s es left)
    (hnone : E.nextTask left = (final, none)) (hbudget : es.length < budget) :
    (runTasks E budget executed s).verdict = .done () := by
  obtain ⟨more, rfl⟩ := Nat.exists_eq_add_of_lt hbudget
  induction es generalizing s executed with
  | nil =>
    have hleft : left = s := h
    rw [← hleft, runTasks_exhausted hnone]
  | cons e es ih =>
    obtain ⟨rfl, hoffered, hsucceeded, hrest⟩ := h
    have hlength : (e :: es).length + more + 1 = es.length + more + 1 + 1 := by
      rw [List.length_cons]
      omega
    rw [hlength, runTasks_succeeded hoffered hsucceeded, Outcome.verdict_after]
    exact ih hrest (by omega)

/-! ### From the last call to the tasks -/

theorem exchanging_exchange (E : Engine σ) (direction : Direction) (budget : Nat)
    (t : Transfer σ) : ∀ event ∈ (exchange E direction budget t).events, event.Exchanging := by
  induction budget generalizing t with
  | zero => exact List.forall_mem_nil _
  | succ budget ih =>
    have hfirst : ∀ event ∈ (attempt E direction t).events, event.Exchanging := by
      rw [events_attempt]
      exact List.forall_mem_singleton.mpr trivial
    cases hretry : retried? E direction t with
    | some next =>
      rw [exchange_of_retry hretry]
      exact List.forall_mem_append.mpr ⟨hfirst, List.forall_mem_cons.mpr ⟨trivial, ih next⟩⟩
    | none =>
      rw [exchange_of_last hretry]
      exact hfirst

/-- The call was accepted without an overflow, and the buffers are as it has left them. -/
structure LeftBy (t : Transfer σ) (c : Call) (r : Report) : Prop where
  report : c.report = .ok r
  settled : r.status ≠ .overflow
  source : c.reading.advance? r.consumed = some t.source
  destination : c.writing.advance? r.produced = some t.destination

theorem exchange_leftBy (h : (exchange E direction budget t).verdict = .done r) :
    ∃ last, (calls (exchange E direction budget t).events).getLast? = some last ∧
      (exchange E direction budget t).state.LeftBy last r := by
  induction budget generalizing t with
  | zero => cases h
  | succ budget ih =>
    cases hretry : retried? E direction t with
    | some next =>
      rw [exchange_of_retry hretry] at h ⊢
      obtain ⟨last, hlast, hleft⟩ := ih h
      refine ⟨last, ?_, hleft⟩
      rw [Outcome.events_after, Outcome.events_after, events_attempt, calls_append, calls_append,
        List.getLast?_append, List.getLast?_append, hlast]
      rfl
    | none =>
      rw [exchange_of_last hretry] at h ⊢
      have hsettled := (retried?_eq_none_of_done h).mp hretry
      rcases attempt_cases E direction t with
        ⟨r', source, destination, hreport, hsource, hdest, hattempt⟩ | ⟨e, -, hattempt⟩
      · rw [hattempt] at h ⊢
        cases h
        exact ⟨_, rfl, hreport, hsettled, hsource, hdest⟩
      · rw [hattempt] at h
        cases h

theorem finish_of_needTask (h : E.handshakeStatus t.engine = .needTask) :
    finish E budget t r =
      ⟨{ t with engine := (runTasks E budget 0 t.engine).state },
        .status .needTask :: (runTasks E budget 0 t.engine).events,
        (runTasks E budget 0 t.engine).verdict.map fun _ => r⟩ := by
  simp only [finish, h, if_pos, Outcome.mapState, Outcome.map, Outcome.after, List.singleton_append]

/-- A transfer whose calls are done goes on with the tasks, if the engine then wants that. -/
theorem run_of_needTask (hdone : (exchange E direction budget t).verdict = .done r)
    (h : E.handshakeStatus (exchange E direction budget t).state.engine = .needTask) :
    let called := exchange E direction budget t
    let tasks := runTasks E budget 0 called.state.engine
    run E direction budget t =
      ⟨{ called.state with engine := tasks.state },
        called.events ++ .status .needTask :: tasks.events, tasks.verdict.map fun _ => r⟩ := by
  rw [run, Outcome.andThen_done hdone, finish_of_needTask h]
  rfl

theorem run_of_other (hdone : (exchange E direction budget t).verdict = .done r)
    (h : E.handshakeStatus (exchange E direction budget t).state.engine ≠ .needTask) :
    let called := exchange E direction budget t
    run E direction budget t =
      ⟨called.state, called.events ++ [.status (E.handshakeStatus called.state.engine)],
        .done r⟩ := by
  rw [run, Outcome.andThen_done hdone, finish_of_other h]
  rfl

/-- What does not occur in front of a cut occurs behind it. -/
theorem split_behind {α : Type} {front back earlier later : List α} {x : α}
    (h : front ++ back = earlier ++ x :: later) (hx : x ∉ front) :
    ∃ between, earlier = front ++ between ∧ back = between ++ x :: later := by
  rcases List.append_eq_append_iff.mp h with ⟨between, hearlier, hback⟩ | ⟨rest, hfront, hrest⟩
  · exact ⟨between, hearlier, hback⟩
  · cases rest with
    | nil => exact ⟨[], by rw [hfront, List.append_nil, List.append_nil], hrest.symm⟩
    | cons y ys =>
      obtain ⟨rfl, -⟩ := List.cons.inj hrest
      exact absurd (hfront ▸ List.mem_append_right _ List.mem_cons_self) hx

/-- Whatever is fetched is fetched behind all calls, and only if the engine then wants tasks. -/
theorem fetched_behind {earlier later : List Event} {found : Bool}
    (h : (run E direction budget t).events = earlier ++ .fetched found :: later) :
    let called := exchange E direction budget t
    (∃ r, called.verdict = .done r) ∧ E.handshakeStatus called.state.engine = .needTask ∧
      called.events ++ [.status .needTask] <+: earlier ∧ calls later = [] := by
  intro called
  have hcalled : .fetched found ∉ called.events := exchanging_exchange E direction budget t _
  have hmem : .fetched found ∈ (run E direction budget t).events :=
    h ▸ List.mem_append_right _ List.mem_cons_self
  rcases Outcome.andThen_cases called (finish E budget) with ⟨r, hdone, -⟩ | ⟨-, hevents, -⟩
  · by_cases hneeded : E.handshakeStatus called.state.engine = .needTask
    · rw [run_of_needTask hdone hneeded, ← List.singleton_append, ← List.append_assoc] at h
      obtain ⟨between, hearlier, htasks⟩ := split_behind h (by simpa using hcalled)
      have hnone := calls_runTasks E budget 0 called.state.engine
      rw [htasks, calls_append, calls_cons, List.append_eq_nil_iff, List.append_eq_nil_iff] at hnone
      exact ⟨⟨r, hdone⟩, hneeded, ⟨between, hearlier.symm⟩, hnone.2.2⟩
    · rw [run_of_other hdone hneeded] at hmem
      exact absurd (by simpa using hmem) hcalled
  · rw [run, hevents] at hmem
    exact absurd hmem hcalled

/-- The buffers then are as the last call has left them, and tasks do not touch them. -/
theorem leftBy_of_fetched {earlier later : List Event} {found : Bool}
    (h : (run E direction budget t).events = earlier ++ .fetched found :: later) :
    ∃ last r, (calls earlier).getLast? = some last ∧
      (run E direction budget t).state.LeftBy last r := by
  obtain ⟨⟨r, hdone⟩, hneeded, -, hlater⟩ := fetched_behind h
  obtain ⟨last, hlast, hleft⟩ := exchange_leftBy hdone
  have hcalls : calls earlier = calls (exchange E direction budget t).events := by
    rw [calls_exchange, ← calls_run, h, calls_append, calls_cons, hlater, List.append_nil,
      List.append_nil]
  refine ⟨last, r, by rw [hcalls]; exact hlast, ?_⟩
  rw [run_of_needTask hdone hneeded]
  exact ⟨hleft.report, hleft.settled, hleft.source, hleft.destination⟩

/-- A transfer that comes back after it has seen `needTask` has met no task that fails. -/
theorem succeeded_of_returned (hreturned : (run E direction budget t).verdict = .done r)
    (hseen : .status .needTask ∈ (run E direction budget t).events) {es : List (Errand σ)}
    {e : Errand σ} (hchain : Errands E (exchange E direction budget t).state.engine es e.asked)
    (hoffered : e.Offered E) : e.failure? = none := by
  have hdone := exchange_done_of_run hreturned
  by_cases hneeded :
      E.handshakeStatus (exchange E direction budget t).state.engine = .needTask
  · have hworked := runTasks_workedOff E budget 0 (exchange E direction budget t).state.engine
    rw [run_of_needTask hdone hneeded] at hreturned
    generalize runTasks E budget 0 _ = tasks at hreturned hworked
    cases hworked with
    | exhausted chain done => exact chain.failure?_eq_none done hchain hoffered
    | stopped chain offered failed => cases hreturned
    | cut chain allowed => cases hreturned
  · rw [run_of_other hdone hneeded, List.mem_append, List.mem_singleton,
      Event.status.injEq] at hseen
    rcases hseen with hmem | hstatus
    · exact (exchanging_exchange E direction budget t _ hmem).elim
    · exact absurd hstatus.symm hneeded

/-- A transfer whose tasks come to an end without a failure comes back. -/
theorem run_returns_of_errands (hdone : (exchange E direction budget t).verdict = .done r)
    {es : List (Errand σ)} {left final : σ}
    (hchain : Errands E (exchange E direction budget t).state.engine es left)
    (hnone : E.nextTask left = (final, none)) (hbudget : es.length < budget) :
    (run E direction budget t).verdict = .done r := by
  by_cases hneeded :
      E.handshakeStatus (exchange E direction budget t).state.engine = .needTask
  · rw [run_of_needTask hdone hneeded, runTasks_of_errands hchain hnone hbudget]
    rfl
  · rw [run_of_other hdone hneeded]

/-- Tasks are asked for only behind the last call, if that call was accepted and did not overflow and
the status which the engine then has is `needTask`. They are run in the order in which they are handed
out, each of them once and before the next one is asked for, until there is none left. The first task
that fails ends the transfer with its error. No task touches the buffers. So a transfer that comes
back after it has seen `needTask` has met no task that fails, and one whose tasks come to an end
without a failure does come back. -/
theorem tasks_worked_off (E : Engine σ) (direction : Direction) (budget : Nat) (t : Transfer σ) :
    let o := run E direction budget t
    let called := exchange E direction budget t
    let s := called.state.engine
    (∀ earlier found later, o.events = earlier ++ .fetched found :: later →
      E.handshakeStatus s = .needTask ∧ called.events ++ [.status .needTask] <+: earlier ∧
        calls later = [] ∧
        ∃ last r, (calls earlier).getLast? = some last ∧ o.state.LeftBy last r) ∧
    (∀ r, called.verdict = .done r → E.handshakeStatus s = .needTask →
      ∃ tasks, WorkedOff E budget 0 s tasks ∧
        o = ⟨{ called.state with engine := tasks.state },
          called.events ++ .status .needTask :: tasks.events, tasks.verdict.map fun _ => r⟩) ∧
    (∀ r, o.verdict = .done r → .status .needTask ∈ o.events →
      ∀ (es : List (Errand σ)) (e : Errand σ), Errands E s es e.asked → e.Offered E →
        e.failure? = none) ∧
    ∀ r, called.verdict = .done r →
      ∀ es left final, Errands E s es left → E.nextTask left = (final, none) →
        es.length < budget → o.verdict = .done r := by
  intro o called s
  refine ⟨?_, ?_, ?_, ?_⟩
  · intro earlier found later hsplit
    obtain ⟨-, hneeded, hbehind, hlater⟩ := fetched_behind hsplit
    exact ⟨hneeded, hbehind, hlater, leftBy_of_fetched hsplit⟩
  · intro r hdone hneeded
    exact ⟨_, runTasks_workedOff E budget 0 s, run_of_needTask hdone hneeded⟩
  · intro r hreturned hseen es e hchain hoffered
    exact succeeded_of_returned hreturned hseen hchain hoffered
  · intro r hdone es left final hchain hnone hbudget
    exact run_returns_of_errands hdone hchain hnone hbudget

/-- A script whose tasks all succeed hands out all of them. -/
theorem exists_errands_scripted {s : Scripted} (h : ∀ reason ∈ s.tasks, reason = none) :
    ∃ es left final, es.length = s.tasks.length ∧ Errands Scripted.engine s es left ∧
      Scripted.engine.nextTask left = (final, none) := by
  generalize htasks : s.tasks = tasks at h ⊢
  induction tasks generalizing s with
  | nil =>
    have hnone : Scripted.engine.nextTask s = (s.dropDoneTasks, none) := by
      simp only [Scripted.engine, Scripted.nextTask, htasks]
    exact ⟨[], s, s.dropDoneTasks, rfl, rfl, hnone⟩
  | cons reason rest ih =>
    obtain ⟨rfl, hrest⟩ := List.forall_mem_cons.mp h
    let taken : Scripted := { s with tasks := rest, handedOut := s.handedOut + 1 }
    let e : Errand Scripted := ⟨s, Scripted.runTask s.handedOut none, taken.dropDoneTasks⟩
    have hoffered : e.Offered Scripted.engine := by
      simp only [Errand.Offered, Scripted.engine, Scripted.nextTask, htasks, e, taken]
    have hleft : e.left.tasks = rest := by
      show taken.dropDoneTasks.tasks = rest
      rw [Scripted.dropDoneTasks]
      split <;> rfl
    obtain ⟨es, left, final, hlength, hchain, hnone⟩ := ih hleft hrest
    exact ⟨e :: es, left, final, congrArg (· + 1) hlength, ⟨rfl, hoffered, rfl, hchain⟩, hnone⟩

/-- Behind a retry, two tasks are run and the third is not asked for, because the second one fails.
Without it all are run. -/
theorem tasks_worked_off_until_failure :
    let start (tasks : List (Option String)) : Transfer Scripted :=
      ⟨{ statuses := [.needTask]
         tasks
         unwraps := [.give .overflow (some 3) (.repeated 4), .give .ok (some 2) (.repeated 20)] },
        .ofBytes [99, 105, 112, 104, 101], .withCapacity 4⟩
    let failed := run Scripted.engine .unwrap 9 (start [none, some "unknown issuer", none])
    let called := exchange Scripted.engine .unwrap 9 (start [none, none])
    let done := run Scripted.engine .unwrap 9 (start [none, none])
    failed.verdict = .failed (.task "unknown issuer") ∧
      failed.state.engine.journal.drop 2 = [.task 0, .task 1] ∧
      (∃ earlier later, failed.events = earlier ++ .fetched true :: later ∧ calls later = [] ∧
        ∃ last r, (calls earlier).getLast? = some last ∧ failed.state.LeftBy last r) ∧
      called.verdict = .done ⟨.ok, 2, 20⟩ ∧ done.verdict = .done ⟨.ok, 2, 20⟩ ∧
      .status .needTask ∈ done.events ∧
      ∀ (es : List (Errand Scripted)) (e : Errand Scripted),
        Errands Scripted.engine called.state.engine es e.asked → e.Offered Scripted.engine →
          e.failure? = none := by
  intro start failed called done
  have hfailed := tasks_worked_off Scripted.engine .unwrap 9
    (start [none, some "unknown issuer", none])
  have hdone := tasks_worked_off Scripted.engine .unwrap 9 (start [none, none])
  have hfetched : .fetched true ∈ failed.events := by
    have hany : failed.events.any (· matches .fetched true) = true := by decide +kernel
    obtain ⟨event, hmem, hevent⟩ := List.any_eq_true.mp hany
    split at hevent
    · exact hmem
    · cases hevent
  have hcalled : called.verdict = .done ⟨.ok, 2, 20⟩ := by decide +kernel
  have hneeded : Scripted.engine.handshakeStatus called.state.engine = .needTask := by
    decide +kernel
  have hseen : .status .needTask ∈ done.events := by
    have hrun : done = _ := run_of_needTask hcalled hneeded
    rw [hrun]
    exact List.mem_append_right _ List.mem_cons_self
  have htasks : called.state.engine.tasks = [none, none] := by decide +kernel
  obtain ⟨earlier, later, hsplit⟩ := List.append_of_mem hfetched
  obtain ⟨-, -, hlater, hlast⟩ := hfailed.1 earlier true later hsplit
  obtain ⟨es, left, final, hlength, hchain, hnone⟩ :=
    exists_errands_scripted (s := called.state.engine) (by rw [htasks]; decide)
  have hreturned : done.verdict = .done ⟨.ok, 2, 20⟩ :=
    hdone.2.2.2 _ hcalled es left final hchain hnone (by rw [hlength, htasks]; decide)
  exact ⟨by decide +kernel, by decide +kernel, ⟨earlier, later, hsplit, hlater, hlast⟩, hcalled,
    hreturned, hseen, hdone.2.2.1 _ hreturned hseen⟩

end Transfer

end RecordLayer
