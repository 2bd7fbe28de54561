import RecordLayer.Proofs.Tls.Annotated

/-!
# The journal of a session

The journal has an entry for every time that a session processes what it was fed: the record, the
plaintext that it yielded, and the plaintext that was still waiting when the first byte of the
record was taken.

* `Opened` is an entry, `Journaled` a session with its journal, and `Provider.journaled` its
  provider;
* `feed_journaled` is a record that is fed to its end.
-/

namespace RecordLayer.Tls

variable {ρ : Type}

/-- A record that was processed. -/
structure Opened where
  /-- The plaintext that waited when the record began to be fed. -/
  waiting : Bytes
  record : Bytes
  /-- The plaintext that the record yielded. -/
  plaintext : Bytes
  deriving DecidableEq

structure Journal where
  /-- The plaintext that waited when what is being fed began, if anything is. -/
  waiting : Option Bytes := none
  /-- What has been taken since the last processing. -/
  begun : Bytes := []
  opened : List Opened := []

/-- The journal of sessions, when `plaintext` tells what waits in a session. -/
def Scribe.journal (plaintext : ρ → Bytes) : Scribe ρ Journal where
  feed j s bs result :=
    { j with
      waiting := some (j.waiting.getD (plaintext s))
      begun := j.begun ++ taken bs result }
  process j s s' :=
    let waiting := j.waiting.getD (plaintext s)
    { opened := j.opened ++ [⟨waiting, j.begun, (plaintext s').drop waiting.length⟩] }

/-- A session with its journal. -/
abbrev Journaled (ρ : Type) : Type :=
  Annotated ρ Journal

abbrev Provider.journaled (P : Provider ρ) (plaintext : ρ → Bytes) : Provider (Journaled ρ) :=
  P.annotated (.journal plaintext)

/-- A state whose session keeps a journal from now on. -/
def State.journal (s : State ρ) : State (Journaled ρ) :=
  s.note {}

/-- The whole of a record that was fed stands in the journal, with what waited before its first
byte. -/
theorem feed_journaled {P : Provider ρ} {plaintext : ρ → Bytes} {m fed : Journaled ρ}
    {record : Bytes} (h : feed (P.journaled plaintext) m record = (fed, .ok ())) :
    fed.notes =
      { m.notes with
        waiting :=
          if record = [] then m.notes.waiting
          else some (m.notes.waiting.getD (plaintext m.session))
        begun := m.notes.begun ++ record } := by
  refine feed_whole (P := P.journaled plaintext)
    (R := fun m record fed => fed.notes =
      { m.notes with
        waiting :=
          if record = [] then m.notes.waiting
          else some (m.notes.waiting.getD (plaintext m.session))
        begun := m.notes.begun ++ record })
    (fun m => ?_) (fun m record m' count fed hsome hfeed hrest => ?_) h
  · rw [if_pos rfl, List.append_nil]
  · -- the waiting plaintext was noted with the first byte, and more bytes do not change that
    rw [hrest, (annotated_feed hfeed).2, if_neg hsome]
    show Journal.mk (if _ then some _ else some (some _ |>.getD _))
      (m.notes.begun ++ record.take (count + 1) ++ record.drop (count + 1)) _ = _
    rw [List.append_assoc, List.take_append_drop, Option.getD_some, ite_self]
    rfl

end RecordLayer.Tls
