import RecordLayer.Proofs.Symbolic.Sending
import RecordLayer.Proofs.Tls.Ledger

/-!
# The symbolic server serves

What waits in a symbolic server is in two lists, and each of its operations touches one of them. So
it can be relied on as `Tls.Serves`, `Tls.Drains` and `Tls.HandsOut` say.
-/

namespace RecordLayer.Symbolic.Server

/-- The queue is given away from the front. -/
theorem drains : Tls.Drains provider (fun s => s.outgoing.length) fun _ => True where
  flushed s room s' bs _ hwanted hflush := by
    cases hflush
    refine ⟨trivial, List.length_take_le _ _, ?_,
      Bytes.take_ne_nil ((wantsWrite_iff s).mp hwanted)⟩
    simp only [List.length_drop, List.length_take]
    omega

/-- Queueing output changes nothing of what a server stands for. -/
theorem Standing.emitted {s : Server} (h : Standing s) (type : ContentType) (plain : Bytes) :
    Standing (s.emit type plain) := by
  obtain ⟨outgoing, sending, hemit⟩ := Party.emit_eq s type plain
  obtain ⟨hfailure, horderly, records, hincoming, hrecords⟩ := h
  rw [hemit]
  refine ⟨hfailure, horderly, records, hincoming, ?_⟩
  intro r hr
  exact (hrecords r hr).congr rfl rfl rfl rfl

theorem serves : Tls.Serves provider Party.plaintext Party.outgoing Standing where
  toFlushesFront := lawful.toFlushesFront.less Prod.fst
  toReadsFront := lawful.toReadsFront.less Prod.fst
  toOpensQuietly := lawful.toOpensQuietly
  fed s bs := by
    show Party.plaintext (feed s bs).1 = _ ∧ Party.outgoing (feed s bs).1 = _
    rw [feed]
    split <;> exact ⟨rfl, rfl⟩
  written s bs s' count hs _ h := by
    have hwrite : writePlaintext s bs = (s', .ok count) := h
    rw [writePlaintext, hs.failure] at hwrite
    cases hwrite
    obtain ⟨outgoing, sending, hemit⟩ := Party.emit_eq s .applicationData
      (bs.take (Party.outputLimit - s.outgoing.length))
    refine ⟨hs.emitted _ _, List.length_take_le' _ _, ?_⟩
    show (s.emit .applicationData (bs.take (Party.outputLimit - s.outgoing.length))).plaintext = _
    rw [hemit]

/-- Reading takes from the front of a list. -/
theorem handsOut : Tls.HandsOut provider Party.plaintext fun s => { s with plaintext := [] } where
  processed s s' progress h := by
    change process s = (s', .ok progress) at h
    rw [process, Prod.mk.injEq] at h
    obtain ⟨rfl, h⟩ := h
    split at h
    · cases h
    · cases h
      rfl
  read s room hsome _ := ⟨_, readPlaintext_of_ne_nil hsome room, rfl⟩
  kept s room hsome _ := by
    have hread : provider.readPlaintext s room = _ := readPlaintext_of_ne_nil hsome room
    rw [hread]
  emptied s hnone := by
    rw [← hnone]

end RecordLayer.Symbolic.Server
