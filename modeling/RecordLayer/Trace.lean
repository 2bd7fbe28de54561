import RecordLayer.Buffer
import RecordLayer.Engine

/-!
# Traces and outcomes

Every operation of the record layer returns, beside its result, the list of what it did with the
engine. Statements about "every call made so far" are statements about these lists.

* `Call` is one engine call: what it was given, what it left, what it reported;
* `Event` is a call, a growth of a destination, a question for the status, or a step with tasks;
* `Outcome` is a state, the events on the way to it, and a verdict. Loops that depend on an engine
  run on a budget; `Verdict.unfinished` means that the budget was too small.
-/

namespace RecordLayer

/-- One engine call as it went. No cursor moves before its report is looked at, so the buffers stand
for what the call was given as well as for what it left. -/
structure Call where
  direction : Direction
  /-- The buffer that the call read from. -/
  reading : Buffer
  /-- The buffer that it wrote to, with what it wrote. -/
  writing : Buffer
  report : Except EngineError Report

namespace Call

/-- The source region that the call was given. -/
def source (c : Call) : Bytes :=
  c.reading.region

/-- The length of the destination region that it was given. -/
def room (c : Call) : Nat :=
  c.writing.remaining

/-- The destination region after the call. -/
def region (c : Call) : Bytes :=
  c.writing.region

/-- The report, if the call succeeded with counts inside its regions. -/
def accepted? (c : Call) : Option Report :=
  match c.report with
  | .ok r => if r.consumed ≤ c.source.length ∧ r.produced ≤ c.room then some r else none
  | .error _ => none

/-- The source bytes that an accepted call took. -/
def consumed (c : Call) : Bytes :=
  match c.accepted? with
  | some r => c.source.take r.consumed
  | none => []

/-- The destination bytes that an accepted call gave. -/
def produced (c : Call) : Bytes :=
  match c.accepted? with
  | some r => c.region.take r.produced
  | none => []

end Call

inductive Event where
  | call (c : Call)
  /-- A destination was too small and is resized. -/
  | grown (direction : Direction) (before after : Nat)
  /-- The status that the runner saw after its last call. -/
  | status (seen : HandshakeStatus)
  /-- A task was asked for. -/
  | fetched (found : Bool)
  | ran (failure : Option EngineError)
  | tasksDone (count : Nat)
  /-- The status at a turn of the handshake driver. -/
  | turn (seen : HandshakeStatus)
  /-- A payload not yet sent was replaced while this many of its bytes were left. -/
  | discarded (count : Nat)

/-- The engine calls of a trace, in order. -/
def calls (events : List Event) : List Call :=
  events.filterMap fun
    | .call c => some c
    | _ => none

@[simp] theorem calls_nil : calls [] = [] := rfl

@[simp] theorem calls_append (xs ys : List Event) : calls (xs ++ ys) = calls xs ++ calls ys :=
  List.filterMap_append

inductive Verdict (ε α : Type) where
  | done (value : α)
  | failed (error : ε)
  | unfinished
  deriving DecidableEq

namespace Verdict

variable {ε ε' α β : Type}

def map (f : α → β) : Verdict ε α → Verdict ε β
  | done a => done (f a)
  | failed e => failed e
  | unfinished => unfinished

def mapError (f : ε → ε') : Verdict ε α → Verdict ε' α
  | done a => done a
  | failed e => failed (f e)
  | unfinished => unfinished

end Verdict

/-- A state, how it was reached, and with what result. -/
structure Outcome (σ ε α : Type) where
  state : σ
  events : List Event
  verdict : Verdict ε α

namespace Outcome

variable {σ τ ε α β : Type}

/-- Goes on after a success. -/
def andThen (o : Outcome σ ε α) (next : σ → α → Outcome σ ε β) : Outcome σ ε β :=
  match o.verdict with
  | .done a =>
    let rest := next o.state a
    { rest with events := o.events ++ rest.events }
  | .failed e => ⟨o.state, o.events, .failed e⟩
  | .unfinished => ⟨o.state, o.events, .unfinished⟩

/-- Events that come before. -/
def after (o : Outcome σ ε α) (events : List Event) : Outcome σ ε α :=
  { o with events := events ++ o.events }

/-- Sees the state as part of another. -/
def mapState (o : Outcome σ ε α) (f : σ → τ) : Outcome τ ε α :=
  ⟨f o.state, o.events, o.verdict⟩

def map (o : Outcome σ ε α) (f : α → β) : Outcome σ ε β :=
  ⟨o.state, o.events, o.verdict.map f⟩

@[simp] theorem events_after (o : Outcome σ ε α) (events : List Event) :
    (o.after events).events = events ++ o.events := rfl

@[simp] theorem state_after (o : Outcome σ ε α) (events : List Event) :
    (o.after events).state = o.state := rfl

@[simp] theorem verdict_after (o : Outcome σ ε α) (events : List Event) :
    (o.after events).verdict = o.verdict := rfl

@[simp] theorem andThen_done {o : Outcome σ ε α} {a : α} (h : o.verdict = .done a)
    (next : σ → α → Outcome σ ε β) :
    o.andThen next = (next o.state a).after o.events := by
  simp [andThen, after, h]

end Outcome

end RecordLayer
