import RecordLayer.Proofs.Tls.Annotated

/-!
# Sessions under watch

The watch over a session notes every record that it processes, the plaintext that it takes for
protection, and the output that it queues for it.

* `Watch` are these notes, `Watched` is a session under watch, and `Provider.watched` its provider;
* `feed_watched` and `processed_watched`: a record that was fed to its end is noted whole;
* `fed_wrap`: a wrap processes nothing.
-/

namespace RecordLayer.Tls

variable {ρ : Type}

structure Watch where
  /-- What was taken since the last processing. -/
  begun : Bytes := []
  /-- What was processed, each time. -/
  fed : List Bytes := []
  /-- The plaintext that was taken for protection. -/
  accepted : Bytes := []
  /-- The output that was queued for it. -/
  generated : Bytes := []

/-- The watch over sessions, when `output` tells what a session has queued. -/
def Scribe.watch (output : ρ → Bytes) : Scribe ρ Watch where
  feed w _ bs result := { w with begun := w.begun ++ taken bs result }
  process w _ _ := { w with begun := [], fed := w.fed ++ [w.begun] }
  write w s s' bs result :=
    { w with
      accepted := w.accepted ++ taken bs result
      generated := w.generated ++ (output s').drop (output s).length }

/-- A session under watch. -/
abbrev Watched (ρ : Type) : Type :=
  Annotated ρ Watch

abbrev Provider.watched (P : Provider ρ) (output : ρ → Bytes) : Provider (Watched ρ) :=
  P.annotated (.watch output)

/-- A session that is watched from now on. -/
def State.watch (s : State ρ) : State (Watched ρ) :=
  s.note {}

section

variable {P : Provider ρ} {output : ρ → Bytes} {w fed : Watched ρ} {record : Bytes}

theorem feed_watched (h : feed (P.watched output) w record = (fed, .ok ())) :
    fed.notes = { w.notes with begun := w.notes.begun ++ record } := by
  refine feed_whole (P := P.watched output)
    (R := fun w record fed => fed.notes = { w.notes with begun := w.notes.begun ++ record })
    (fun w => ?_) (fun w record w' count fed _ hfeed hrest => ?_) h
  · rw [List.append_nil]
  · rw [hrest, (annotated_feed hfeed).2]
    show Watch.mk (w.notes.begun ++ record.take (count + 1) ++ record.drop (count + 1)) _ _ _ = _
    rw [List.append_assoc, List.take_append_drop]
    rfl

/-- A record that was fed from its start, and processed, is noted. -/
theorem processed_watched {processed : Watched ρ} {result : Except ProtocolError Progress}
    (hbegun : w.notes.begun = []) (hfeed : feed (P.watched output) w record = (fed, .ok ()))
    (hprocess : (P.watched output).process fed = (processed, result)) :
    processed.notes = { w.notes with begun := [], fed := w.notes.fed ++ [record] } := by
  rw [(annotated_process hprocess).2, feed_watched hfeed, hbegun]
  rfl

/-- Feeding processes nothing, whether it fails or not. -/
theorem fed_feed (P : Provider ρ) (output : ρ → Bytes) (w : Watched ρ) (record : Bytes) :
    (feed (P.watched output) w record).1.notes.fed = w.notes.fed :=
  feed_keeps (P := P.watched output) (K := fun left => left.notes.fed = w.notes.fed)
    (fun _ _ hkept => hkept) rfl record

/-- Nor does a wrap. -/
theorem fed_wrap (P : Provider ρ) (output : ρ → Bytes) (s : State (Watched ρ)) (source : Bytes)
    (room : Nat) :
    (wrap (P.watched output) s source room).engine.session.notes.fed = s.session.notes.fed := by
  have hflushed : ∀ m, (flush (P.watched output) m room).session.notes.fed = m.notes.fed :=
    fun m => congrArg Watch.fed (notes_flush _ m room)
  have hwritten : ∀ {m result}, (P.watched output).writePlaintext s.session source = (m, result) →
      m.notes.fed = s.session.notes.fed := by
    intro m result hwrite
    rw [(annotated_write hwrite).2]
    rfl
  have hways := wrap_cases (P.watched output) s source room
  generalize wrap (P.watched output) s source room = a at hways ⊢
  rcases hways with ⟨r, -, hok⟩ | ⟨e, -, hfailed⟩
  · cases hok with
    | idle unwanted => rfl
    | flushed wanted smooth => exact hflushed _
    | wrote unwanted established taken smooth => exact (hflushed _).trans (hwritten taken)
  · cases hfailed with
    | unflushed wanted failed => exact hflushed _
    | refused unwanted failed => exact hwritten failed
    | unsent unwanted taken failed => exact (hflushed _).trans (hwritten taken)

end

end RecordLayer.Tls
