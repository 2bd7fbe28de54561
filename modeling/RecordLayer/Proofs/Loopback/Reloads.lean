import RecordLayer.Loopback.Session
import RecordLayer.Proofs.Runs

/-!
# Reloads in the middle of a session

Between two connections a session does not notice that its context gets other key material. Of the
contexts it uses nothing until it is asked for a new connection.

* `SameWork` relates sessions that differ at most in their contexts;
* `step_sameWork`: they do the same under every command but these two;
* `reloads_unnoticed`: so reloads can be left out of a session.
-/

namespace RecordLayer.Loopback.Session

variable {σ : Type}

def Command.reloads : Command → Bool
  | .reload _ => true
  | _ => false

/-- The sessions differ at most in their contexts. -/
structure SameWork (s t : Session σ) : Prop where
  connection : s.connection = t.connection
  link : s.link = t.link

theorem SameWork.trans {s t u : Session σ} (h : SameWork s t) (h' : SameWork t u) : SameWork s u :=
  ⟨h.connection.trans h'.connection, h.link.trans h'.link⟩

theorem step_sameWork (S : Setting σ) {s t : Session σ} (h : SameWork s t) {command : Command}
    (hserver : command ≠ .newServer) (hreload : command.reloads = false) :
    (step S s command).log = (step S t command).log ∧
      (step S s command).reply = (step S t command).reply ∧
      SameWork (step S s command).session (step S t command).session := by
  obtain ⟨contexts, connection, link⟩ := s
  obtain ⟨contexts', connection', link'⟩ := t
  obtain ⟨rfl, rfl⟩ := h
  cases command with
  | newServer => exact absurd rfl hserver
  | reload keys => cases hreload
  | extract =>
    simp only [step, extract, onConnection]
    split <;> exact ⟨rfl, rfl, rfl, rfl⟩
  | link command => exact ⟨rfl, rfl, rfl, rfl⟩
  | connection command => exact ⟨rfl, rfl, rfl, rfl⟩
  | inject amount => exact ⟨rfl, rfl, rfl, rfl⟩
  | newClient settings => exact ⟨rfl, rfl, rfl, rfl⟩
  | pump => exact ⟨rfl, rfl, rfl, rfl⟩

theorem sameWork_reload (S : Setting σ) (s : Session σ) {command : Command}
    (h : command.reloads = true) : SameWork (step S s command).session s := by
  cases command with
  | reload keys => exact ⟨rfl, rfl⟩
  | _ => cases h

/-- The session after a list of commands. -/
def after (S : Setting σ) (s : Session σ) (commands : List Command) : Session σ :=
  Runs.after (step S) Step.session s commands

/-- What a session logs and replies, reloads left out. -/
def answers (S : Setting σ) (s : Session σ) (commands : List Command) :
    List (Command × List Log.Entry × Reply) :=
  ((commands.zip (history S s commands)).filter fun p => !p.1.reloads).map fun p =>
    (p.1, p.2.log, p.2.reply)

theorem answers_cons (S : Setting σ) (s : Session σ) (command : Command) (rest : List Command) :
    answers S s (command :: rest) =
      if command.reloads then answers S (step S s command).session rest
      else (command, (step S s command).log, (step S s command).reply) ::
        answers S (step S s command).session rest := by
  cases h : command.reloads <;> simp [answers, history, h]

theorem sameWork_answers (S : Setting σ) {s t : Session σ} (h : SameWork s t)
    {commands : List Command} (hserver : .newServer ∉ commands) :
    answers S s commands = answers S t (commands.filter fun command => !command.reloads) ∧
      SameWork (after S s commands)
        (after S t (commands.filter fun command => !command.reloads)) := by
  induction commands generalizing s t with
  | nil => exact ⟨rfl, h⟩
  | cons command rest ih =>
    obtain ⟨hcommand, hrest⟩ := not_or.mp (List.mem_cons.not.mp hserver)
    cases hreload : command.reloads with
    | true =>
      have hsame : SameWork (step S s command).session t := (sameWork_reload S s hreload).trans h
      rw [List.filter_cons_of_neg (by simp [hreload]), answers_cons, if_pos hreload]
      exact ih hsame hrest
    | false =>
      obtain ⟨hlog, hreply, hsame⟩ := step_sameWork S h (Ne.symm hcommand) hreload
      obtain ⟨hanswers, hend⟩ := ih hsame hrest
      rw [List.filter_cons_of_pos (by simp [hreload]), answers_cons, answers_cons, hreload, hlog,
        hreply, hanswers]
      exact ⟨rfl, hend⟩

/-- A connection in use does not notice reloads: until the next one is asked for, everything in the
session goes as it would without them. -/
theorem reloads_unnoticed (S : Setting σ) (s : Session σ) {commands : List Command}
    (h : .newServer ∉ commands) :
    answers S s commands = answers S s (commands.filter fun command => !command.reloads) ∧
      SameWork (after S s commands)
        (after S s (commands.filter fun command => !command.reloads)) :=
  sameWork_answers S ⟨rfl, rfl⟩ h

end RecordLayer.Loopback.Session
