import RecordLayer.Library.Summary
import RecordLayer.ServerConfig

/-!
# Contexts

A context is a policy with a backend and a slot, and the slot holds the current snapshot of the
configuration. A clone of a context shares the slot. Reloading key material puts a new snapshot into
the slot, for all who share it; what was obtained earlier keeps its own.

* `Contexts` holds the contexts of a process and their slots;
* `Contexts.Command` are the operations, and `Contexts.step` performs one.
-/

namespace RecordLayer

/-- A configuration as an object: two snapshots are the same when their serial numbers are. -/
structure Snapshot where
  serial : Nat
  config : ServerConfig
  deriving DecidableEq

structure Context where
  options : Options
  backend : BackendChoice
  slot : Nat
  deriving DecidableEq

/-- The context as shown in diagnostics. -/
def Context.describe (c : Context) : String :=
  "MiniSslContext \x7b backend: " ++ Text.Quoted.encode c.backend.name ++ ", options: " ++
    c.options.describe ++ ", .. \x7d"

/-- What contexts find around them; `κ` is the type of fresh sessions. -/
structure Environment (κ : Type) where
  library : Library
  /-- The environment flag that asks for the native backend. -/
  flag : Option String
  rules : CertificateRules
  /-- Starts a session; its number tells it from the others. -/
  connect : Nat → ServerConfig → Except ProtocolError κ

structure Contexts where
  contexts : List Context := []
  /-- The current snapshot of each slot. -/
  slots : List Snapshot := []
  /-- The number of configurations built so far. -/
  built : Nat := 0
  /-- The number of sessions started so far. -/
  sessions : Nat := 0
  deriving DecidableEq

namespace Contexts

inductive Command where
  | new (options : Options) (keys : KeyMaterial)
  | clone (context : Nat)
  | server (context : Nat)
  | reload (context : Nat) (keys : KeyMaterial)
  | snapshot (context : Nat)
  deriving DecidableEq

inductive Reply (κ : Type) where
  | context (index : Nat)
  | reloaded
  | session (fresh : κ)
  | snapshot (current : Snapshot)
  | failed (error : Error)
  | noSuchContext

/-- What one command did. -/
structure Step (κ : Type) where
  contexts : Contexts
  notices : List Notice
  reply : Reply κ

variable {κ : Type}

/-- The context at an index, with its current snapshot. -/
def current? (c : Contexts) (index : Nat) : Option (Context × Snapshot) := do
  let context ← c.contexts[index]?
  let snapshot ← c.slots[context.slot]?
  return (context, snapshot)

/-- Whether to try the native backend: the policy says so, or the environment does. -/
def prefersNative (env : Environment κ) (options : Options) : Bool :=
  options.preferNative.getD (env.library.summarize env.flag).2.nativeRequested

/-- Chooses a backend and builds a configuration on it. -/
def prepare (env : Environment κ) (options : Options) (keys : KeyMaterial) :
    Noted (BackendChoice × ServerConfig) :=
  (env.library.choose (prefersNative env options)).andThen fun backend =>
    (ServerConfig.build env.rules options backend keys).andThen fun config =>
      (Noted.ok (backend, config)).after
        [.contextReady backend.name options.protocols options.clientAuth]

/-- Adds a context with a slot of its own. -/
def add (c : Contexts) (options : Options) (backend : BackendChoice) (config : ServerConfig) :
    Contexts :=
  { c with
    contexts := c.contexts ++ [⟨options, backend, c.slots.length⟩]
    slots := c.slots ++ [⟨c.built, config⟩]
    built := c.built + 1 }

/-- A fresh session under a configuration. -/
def connect (env : Environment κ) (c : Contexts) (config : ServerConfig) :
    Except Error (Contexts × κ) :=
  match env.connect c.sessions config with
  | .ok fresh => .ok ({ c with sessions := c.sessions + 1 }, fresh)
  | .error e => .error (.connectionFailed (.protocol e))

/-- The first context of a process, and a session of it. -/
def first (env : Environment κ) (options : Options) (keys : KeyMaterial) : Noted (Contexts × κ) :=
  (prepare env options keys).andThen fun (backend, config) =>
    ⟨[], connect env (add {} options backend config) config⟩

/-- Performs one command. -/
def step (env : Environment κ) (c : Contexts) : Command → Step κ
  | .new options keys =>
    let prepared := prepare env options keys
    match prepared.result with
    | .error e => ⟨c, prepared.notices, .failed e⟩
    | .ok (backend, config) =>
      ⟨c.add options backend config, prepared.notices, .context c.contexts.length⟩
  | .clone index =>
    match c.contexts[index]? with
    | none => ⟨c, [], .noSuchContext⟩
    | some context =>
      ⟨{ c with contexts := c.contexts ++ [context] }, [], .context c.contexts.length⟩
  | .server index =>
    match c.current? index with
    | none => ⟨c, [], .noSuchContext⟩
    | some (_, snapshot) =>
      match connect env c snapshot.config with
      | .ok (c, fresh) => ⟨c, [], .session fresh⟩
      | .error e => ⟨c, [], .failed e⟩
  | .reload index keys =>
    match c.contexts[index]? with
    | none => ⟨c, [], .noSuchContext⟩
    | some context =>
      let rebuilt := ServerConfig.build env.rules context.options context.backend keys
      match rebuilt.result with
      | .error e => ⟨c, rebuilt.notices, .failed e⟩
      | .ok config =>
        { contexts :=
            { c with
              slots := c.slots.set context.slot ⟨c.built, config⟩
              built := c.built + 1 }
          notices := rebuilt.notices ++ [.reloaded context.backend.name]
          reply := .reloaded }
  | .snapshot index =>
    match c.current? index with
    | none => ⟨c, [], .noSuchContext⟩
    | some (_, snapshot) => ⟨c, [], .snapshot snapshot⟩

/-- Performs commands one after the other. -/
def history (env : Environment κ) : Contexts → List Command → List (Step κ)
  | _, [] => []
  | c, command :: rest =>
    let first := step env c command
    first :: history env first.contexts rest

end Contexts

end RecordLayer
