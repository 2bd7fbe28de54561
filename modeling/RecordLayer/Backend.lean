import RecordLayer.CipherSuite
import RecordLayer.Notice
import RecordLayer.Wire.Group

/-!
# Cryptographic backends

A backend offers cipher suites, or fails to. The one that is tried first may even panic while it
starts; then, and when it fails, the fallback takes its place. A fallback that fails is an error.
-/

namespace RecordLayer

/-- What a backend comes to when it starts. -/
inductive Provision where
  | ready (suites : List CipherSuite)
  | failed (error : Error)
  | panicked
  deriving DecidableEq

/-- A backend that is tried first. -/
structure Candidate where
  name : String
  native : Bool
  provision : Provision
  deriving DecidableEq

/-- A backend to fall back on, which does not panic. -/
structure Backend where
  name : String
  native : Bool
  provision : Except Error (List CipherSuite)

/-- The backend in use. -/
structure BackendChoice where
  name : String
  native : Bool
  suites : List CipherSuite
  deriving DecidableEq

/-- The groups that a backend exchanges keys in; only native ones have the hybrid group. -/
def BackendChoice.groups (b : BackendChoice) : List Wire.Group :=
  Wire.Group.curves ++ if b.native then [.x25519MlKem768] else []

namespace Backend

/-- A backend that works. -/
def ready (name : String) (native : Bool) (suites : List CipherSuite) : Backend :=
  ⟨name, native, .ok suites⟩

def toCandidate (b : Backend) : Candidate :=
  ⟨b.name, b.native, match b.provision with
    | .ok suites => .ready suites
    | .error e => .failed e⟩

/-- Falls back on a backend. -/
def settle (fallback : Backend) : Noted BackendChoice :=
  match fallback.provision with
  | .ok suites => .ok ⟨fallback.name, fallback.native, suites⟩
  | .error e => .error e

/-- Takes the preferred backend if there is one and it works, else the fallback. -/
def select (preferred : Option Candidate) (fallback : Backend) : Noted BackendChoice :=
  match preferred with
  | none => fallback.settle
  | some first =>
    match first.provision with
    | .ready suites =>
      (Noted.ok ⟨first.name, first.native, suites⟩).after [.nativeChosen first.name]
    | .failed e => fallback.settle.after [.nativeUnavailable first.name fallback.name e]
    | .panicked => fallback.settle.after [.nativePanicked first.name fallback.name]

end Backend

end RecordLayer
