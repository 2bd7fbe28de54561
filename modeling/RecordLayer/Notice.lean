import RecordLayer.Error
import RecordLayer.Options

/-!
# Notices

What the building of a context tells the host's log. `Noted` is a result together with the notices
on the way to it, which are there also when the result is an error.
-/

namespace RecordLayer

inductive Notice where
  /-- A version of the policy cannot be spoken. -/
  | versionDropped (version : ProtocolVersion)
  /-- A requested cipher suite is unknown or not available. -/
  | cipherSkipped (name : String)
  | nativeChosen (backend : String)
  | nativeUnavailable (backend fallback : String) (error : Error)
  | nativePanicked (backend fallback : String)
  | contextReady (backend : String) (protocols : List ProtocolVersion) (clientAuth : ClientAuth)
  | reloaded (backend : String)
  deriving DecidableEq

structure Noted (α : Type) where
  notices : List Notice
  result : Except Error α

namespace Noted

variable {α β : Type}

def ok (a : α) : Noted α :=
  ⟨[], .ok a⟩

def error (e : Error) : Noted α :=
  ⟨[], .error e⟩

/-- Goes on after a success. -/
def andThen (n : Noted α) (next : α → Noted β) : Noted β :=
  match n.result with
  | .ok a =>
    let rest := next a
    ⟨n.notices ++ rest.notices, rest.result⟩
  | .error e => ⟨n.notices, .error e⟩

/-- Notices that come before. -/
def after (n : Noted α) (notices : List Notice) : Noted α :=
  { n with notices := notices ++ n.notices }

@[simp] theorem result_andThen_ok {n : Noted α} {a : α} (h : n.result = .ok a)
    (next : α → Noted β) : (n.andThen next).result = (next a).result := by
  simp [andThen, h]

@[simp] theorem result_andThen_error {n : Noted α} {e : Error} (h : n.result = .error e)
    (next : α → Noted β) : (n.andThen next).result = .error e := by
  simp [andThen, h]

@[simp] theorem result_after (n : Noted α) (notices : List Notice) :
    (n.after notices).result = n.result := rfl

end Noted

end RecordLayer
