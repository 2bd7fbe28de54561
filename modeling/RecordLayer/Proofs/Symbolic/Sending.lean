import RecordLayer.Proofs.Symbolic.Receiving
import RecordLayer.Proofs.Tls.Sends

/-!
# The symbolic server sends

A party queues what it is given to protect in one record after the other, and gives its queue away
from the front. So a symbolic server whose handshake is over can be relied on as `Tls.Sends` says.

* `Party.outgoing_emit`: content that is queued makes the queue longer;
* `Server.sends`: the server meets `Tls.Sends`, and `Server.queues` at any time `Tls.Queues`.
-/

namespace RecordLayer.Symbolic

namespace Party

variable {δ : Type}

/-- A record is never empty. -/
theorem outgoing_emitRecord (p : Party δ) (type : ContentType) (plain : Bytes) :
    p.outgoing.length < (p.emitRecord type plain).outgoing.length := by
  rw [emitRecord]
  split
  · simp only [Record.header, List.length_append, List.length_cons]
    omega
  · simp only [Channel.protect, Record.header, List.length_append, List.length_cons]
    omega

theorem outgoing_emit (p : Party δ) (type : ContentType) {plain : Bytes} (hplain : plain ≠ []) :
    p.outgoing.length < (p.emit type plain).outgoing.length := by
  rw [emit, dif_neg hplain]
  apply emit_kept fun q => p.outgoing.length < q.outgoing.length
  · intro q more hq
    exact Nat.lt_trans hq (outgoing_emitRecord q type more)
  · exact outgoing_emitRecord p type _

end Party

namespace Server

/-- Nothing has failed, and no more of a handshake is awaited. -/
def Established (s : Server) : Prop :=
  s.failure = none ∧ s.awaited = []

theorem established_emit {s : Server} (h : s.Established) (type : ContentType) (plain : Bytes) :
    Established (s.emit type plain) := by
  obtain ⟨outgoing, sending, hemit⟩ := Party.emit_eq s type plain
  rw [hemit]
  exact h

/-- Flushing takes from the queue and depends on nothing else. -/
theorem queues {live : Server → Prop}
    (hlive : ∀ (s : Server) outgoing, live s → live { s with outgoing }) :
    Tls.Queues provider Party.outgoing live where
  toFlushesFront := flushesFront (fun _ _ => rfl) hlive
  smooth s room _ _ := ⟨{ s with outgoing := s.outgoing.drop room }, s.outgoing.take room, rfl⟩

theorem sends : Tls.Sends provider Party.outgoing Established where
  toQueues := queues fun _ _ hs => hs
  established s hs := by
    show (!s.awaited.isEmpty) = false
    rw [hs.2]
    rfl
  written s bs hs hnone hbs := by
    have hroom : 0 < Party.outputLimit - s.outgoing.length := by
      rw [hnone]
      decide
    have htaken := Bytes.take_ne_nil hbs hroom
    have hwrite : provider.writePlaintext s bs =
        (s.emit .applicationData (bs.take (Party.outputLimit - s.outgoing.length)),
          .ok (bs.take (Party.outputLimit - s.outgoing.length)).length) := by
      show writePlaintext s bs = _
      rw [writePlaintext, hs.1]
      rfl
    refine ⟨_, _, hwrite, List.length_pos_iff.mpr htaken, List.length_take_le' _ _, ?_,
      established_emit hs _ _⟩
    rw [← List.length_pos_iff]
    exact Nat.zero_lt_of_lt (Party.outgoing_emit s .applicationData htaken)
  moves s room s' bs hs hsome hroom hflush := by
    cases hflush
    exact Bytes.take_ne_nil hsome hroom

/-- A server of TLS 1.3 after the handshake, with so much queued. -/
def afterHandshake (config : ServerConfig) (bulk : BulkCipher) (queued : Bytes) : Server :=
  { fresh 0 config with
    awaited := []
    version := some .tls13
    sending := some ⟨.server, .application, .tls13, bulk, .empty, 0⟩
    outgoing := queued }

theorem established_afterHandshake (config : ServerConfig) (bulk : BulkCipher) (queued : Bytes) :
    Established (afterHandshake config bulk queued) :=
  ⟨rfl, rfl⟩

end Server

end RecordLayer.Symbolic
