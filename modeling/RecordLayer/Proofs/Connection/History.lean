import RecordLayer.Connection.Command
import RecordLayer.Proofs.Runs

/-!
# Histories of a connection

The past of a connection is the list of the commands that were performed, each with its step. What
hosts and networks see of a connection is read off its past.

* `Connection.after` is the connection at the end of a history, `Connection.performed` its past;
* `payloads`, `injected` and `traced` are what came out, what came in, and the engine calls;
* `performed_invariant` is induction on histories: what holds at the start and is kept by one more
  command holds after every history.
-/

namespace RecordLayer.Connection

variable {σ : Type}

/-- The connection after a history. -/
def after (E : Engine σ) (budget : Nat) (c : Connection σ) (commands : List Command) :
    Connection σ :=
  Runs.after (step E budget) Step.connection c commands

/-- A past: commands with what they did. -/
abbrev Past (σ : Type) : Type :=
  List (Command × Step σ)

def performed (E : Engine σ) (budget : Nat) (c : Connection σ) (commands : List Command) : Past σ :=
  commands.zip (history E budget c commands)

theorem after_cons (E : Engine σ) (budget : Nat) (c : Connection σ) (command : Command)
    (rest : List Command) :
    after E budget c (command :: rest) = after E budget (c.step E budget command).connection rest :=
  rfl

theorem after_append (E : Engine σ) (budget : Nat) (c : Connection σ)
    (earlier later : List Command) :
    after E budget c (earlier ++ later) = after E budget (after E budget c earlier) later :=
  Runs.after_append _ _ c earlier later

theorem after_concat (E : Engine σ) (budget : Nat) (c : Connection σ) (commands : List Command)
    (command : Command) :
    after E budget c (commands ++ [command]) =
      ((after E budget c commands).step E budget command).connection :=
  after_append E budget c commands [command]

theorem performed_cons (E : Engine σ) (budget : Nat) (c : Connection σ) (command : Command)
    (rest : List Command) :
    performed E budget c (command :: rest) =
      (command, c.step E budget command) ::
        performed E budget (c.step E budget command).connection rest := rfl

theorem performed_eq (E : Engine σ) (budget : Nat) (c : Connection σ) (commands : List Command) :
    performed E budget c commands = Runs.performed (step E budget) Step.connection c commands :=
  Runs.zip_eq_performed _ _ (fun _ _ _ => rfl) c commands

theorem performed_append (E : Engine σ) (budget : Nat) (c : Connection σ)
    (earlier later : List Command) :
    performed E budget c (earlier ++ later) =
      performed E budget c earlier ++ performed E budget (after E budget c earlier) later := by
  simp only [performed_eq]
  exact Runs.performed_append _ _ c earlier later

theorem performed_concat (E : Engine σ) (budget : Nat) (c : Connection σ) (commands : List Command)
    (command : Command) :
    performed E budget c (commands ++ [command]) =
      performed E budget c commands ++
        [(command, (after E budget c commands).step E budget command)] :=
  performed_append E budget c commands [command]

/-- Induction on histories. -/
theorem performed_invariant (E : Engine σ) (budget : Nat) (c : Connection σ)
    {motive : List Command → Past σ → Connection σ → Prop} (start : motive [] [] c)
    (next : ∀ commands past c command, motive commands past c →
      motive (commands ++ [command]) (past ++ [(command, c.step E budget command)])
        (c.step E budget command).connection)
    (commands : List Command) :
    motive commands (performed E budget c commands) (after E budget c commands) := by
  rw [performed_eq]
  exact Runs.invariant (step E budget) Step.connection c start next commands

/-- Every entry of a past is the step of its command on the connection at that time. -/
theorem mem_performed {E : Engine σ} {budget : Nat} {c : Connection σ} {commands : List Command}
    {p : Command × Step σ} (h : p ∈ performed E budget c commands) :
    ∃ earlier later, commands = earlier ++ p.1 :: later ∧
      p.2 = (after E budget c earlier).step E budget p.1 := by
  rw [performed_eq] at h
  exact Runs.mem_performed _ _ h

/-! ### What is seen of a past -/

/-- The payload of a reply, empty when there is none. -/
def Step.payload (s : Step σ) : Bytes :=
  match s.reply with
  | .payload (some bs) => bs
  | _ => []

/-- The operation came back without an error, with a payload or without one. -/
def Step.returned (s : Step σ) : Bool :=
  match s.reply with
  | .payload _ => true
  | _ => false

/-- All that one kind of command returned, in order: what `read` gave is the plaintext that was
received, what `extract` gave is the ciphertext that was sent. -/
def payloads (command : Command) (past : Past σ) : Bytes :=
  (past.filter (·.1 = command)).flatMap (·.2.payload)

/-- All bytes that came from the network. -/
def injected (commands : List Command) : Bytes :=
  commands.flatMap fun
    | .inject bs => bs
    | _ => []

/-- All engine calls that were made. -/
def traced (past : Past σ) : List Call :=
  past.flatMap fun p => calls p.2.events

/-- The command came back without an error. -/
def Step.succeeded (s : Step σ) : Bool :=
  match s.reply with
  | .failed _ | .unfinished => false
  | _ => true

/-- No command has failed. -/
def Untroubled (past : Past σ) : Prop :=
  ∀ p ∈ past, p.2.succeeded = true

instance (past : Past σ) : Decidable (Untroubled past) :=
  inferInstanceAs (Decidable (∀ p ∈ past, p.2.succeeded = true))

/-- No read has failed. -/
def ReadsReturn (past : Past σ) : Prop :=
  ∀ p ∈ past, p.1 = .read → p.2.returned = true

instance (past : Past σ) : Decidable (ReadsReturn past) :=
  inferInstanceAs (Decidable (∀ p ∈ past, p.1 = .read → p.2.returned = true))

section

variable (past : Past σ) (command : Command) (s : Step σ)

@[simp] theorem traced_concat : traced (past ++ [(command, s)]) = traced past ++ calls s.events := by
  simp only [traced, List.flatMap_append, List.flatMap_cons, List.flatMap_nil, List.append_nil]

theorem traced_append (later : Past σ) : traced (past ++ later) = traced past ++ traced later :=
  List.flatMap_append

theorem payloads_concat_self :
    payloads command (past ++ [(command, s)]) = payloads command past ++ s.payload := by
  simp [payloads]

theorem payloads_concat_ne {other : Command} (h : command ≠ other) :
    payloads other (past ++ [(command, s)]) = payloads other past := by
  simp [payloads, h]

theorem injected_concat_inject (commands : List Command) (bs : Bytes) :
    injected (commands ++ [.inject bs]) = injected commands ++ bs := by
  simp [injected]

theorem injected_concat_other (commands : List Command) (h : ∀ bs, command ≠ .inject bs) :
    injected (commands ++ [command]) = injected commands := by
  cases command with
  | inject bs => exact absurd rfl (h bs)
  | _ => simp [injected]

theorem payloads_append (later : Past σ) :
    payloads command (past ++ later) = payloads command past ++ payloads command later := by
  simp [payloads]

theorem untroubled_append (later : Past σ) :
    Untroubled (past ++ later) ↔ Untroubled past ∧ Untroubled later :=
  List.forall_mem_append

theorem readsReturn_concat :
    ReadsReturn (past ++ [(command, s)]) ↔
      ReadsReturn past ∧ (command = .read → s.returned = true) := by
  simp [ReadsReturn, or_imp, forall_and]

end

end RecordLayer.Connection
