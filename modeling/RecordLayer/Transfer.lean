import RecordLayer.Trace

/-!
# Transfers

A transfer moves bytes from a source buffer through the engine into a destination buffer.

* `Transfer.attempt` makes one engine call. No cursor moves unless both counts lie inside their
  regions, whatever the engine reports.
* `Transfer.exchange` repeats the call while the engine asks for a larger destination. Each time the
  destination gets a region of exactly the session size.
* `Transfer.run` finally does the delegated tasks, if the engine then wants that.
-/

namespace RecordLayer

/-- An engine with a source to read from and a destination to write to. -/
structure Transfer (σ : Type) where
  engine : σ
  source : Buffer
  destination : Buffer

namespace Transfer

variable {σ : Type}

/-- One engine call, with its counts checked before a cursor moves. -/
def attempt (E : Engine σ) (direction : Direction) (t : Transfer σ) :
    Outcome (Transfer σ) EngineError Report :=
  let answer := E.call direction t.engine t.source.region t.destination.region
  let written := t.destination.fill answer.written
  let call : Call :=
    { direction
      reading := t.source
      writing := written
      report := answer.report }
  let left : Transfer σ := { t with engine := answer.engine, destination := written }
  match answer.report with
  | .error e => ⟨left, [.call call], .failed e⟩
  | .ok r =>
    match t.source.advance? r.consumed, written.advance? r.produced with
    | some source, some destination =>
      ⟨⟨answer.engine, source, destination⟩, [.call call], .done r⟩
    | _, _ =>
      ⟨left, [.call call], .failed <| .misbehaved <|
        .overreported direction r.consumed r.produced t.source.remaining t.destination.remaining⟩

/-- The transfer with the destination that it goes on with after an overflow. -/
def grow (E : Engine σ) (t : Transfer σ) : Transfer σ :=
  { t with destination := t.destination.resize (E.sessionSize t.engine + t.destination.position) }

/-- Calls the engine until it reports something else than overflow. -/
def exchange (E : Engine σ) (direction : Direction) :
    Nat → Transfer σ → Outcome (Transfer σ) EngineError Report
  | 0, t => ⟨t, [], .unfinished⟩
  | budget + 1, t =>
    (attempt E direction t).andThen fun t r =>
      if r.status = .overflow then
        (exchange E direction budget (grow E t)).after
          [.grown direction t.destination.capacity (E.sessionSize t.engine + t.destination.position)]
      else
        ⟨t, [], .done r⟩

/-- Runs tasks one after the other, each before the next is asked for, until there is none left or
one fails. -/
def runTasks (E : Engine σ) : Nat → Nat → σ → Outcome σ EngineError Unit
  | 0, _, s => ⟨s, [], .unfinished⟩
  | budget + 1, executed, s =>
    match E.nextTask s with
    | (s, none) => ⟨s, [.fetched false, .tasksDone executed], .done ()⟩
    | (s, some task) =>
      match task s with
      | (s, some e) => ⟨s, [.fetched true, .ran (some e)], .failed e⟩
      | (s, none) => (runTasks E budget (executed + 1) s).after [.fetched true, .ran none]

/-- The end of a transfer: the tasks, if the engine then wants that. -/
def finish (E : Engine σ) (budget : Nat) (t : Transfer σ) (r : Report) :
    Outcome (Transfer σ) EngineError Report :=
  let seen := E.handshakeStatus t.engine
  let rest : Outcome (Transfer σ) EngineError Report :=
    if seen = .needTask then
      ((runTasks E budget 0 t.engine).mapState fun s => { t with engine := s }).map fun _ => r
    else
      ⟨t, [], .done r⟩
  rest.after [.status seen]

/-- One operation of the runner. -/
def run (E : Engine σ) (direction : Direction) (budget : Nat) (t : Transfer σ) :
    Outcome (Transfer σ) EngineError Report :=
  (exchange E direction budget t).andThen (finish E budget)

end Transfer

end RecordLayer
