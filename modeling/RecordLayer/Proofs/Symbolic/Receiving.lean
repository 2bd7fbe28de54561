import RecordLayer.Proofs.Symbolic.Opening
import RecordLayer.Proofs.Tls.Sessions
import RecordLayer.Symbolic.Server

/-!
# The symbolic server receives

Whatever messages a symbolic server handles, the plaintext that waits in it, the end of the peer's
data and the rest of its input stay as they are. So a record either makes it queue output or gives
it something to read, and the server can be relied on as `Tls.View.Lawful` says.

* `Action.Leaves` says that an answer to a hello leaves the intake alone; it holds of a block if it
  holds of its steps;
* `steady_handlers` says so of all handlers;
* `Server.lawful`: the server meets `Tls.View.Lawful`.
-/

namespace RecordLayer.Symbolic

open Wire

namespace Server

/-! ### Answers to a hello -/

variable {α β : Type}

/-- An action that leaves the intake alone, whether a fault stops it or not. -/
def Action.Leaves (a : Action α) : Prop :=
  ∀ s : Server, (StateT.run (ExceptT.run a) s).2.intake = s.intake

theorem Action.Leaves.pure (x : α) : Action.Leaves (Pure.pure x) := fun _ => rfl

theorem Action.Leaves.throw (fault : Fault) : Action.Leaves (throw fault : Action α) := fun _ => rfl

theorem Action.Leaves.get : Action.Leaves (get : Action Server) := fun _ => rfl

theorem Action.Leaves.of_except (r : Except Fault α) : Action.Leaves (liftM r : Action α) := by
  intro s
  cases r <;> rfl

theorem Action.Leaves.modify {f : Server → Server} (h : ∀ s : Server, (f s).intake = s.intake) :
    Action.Leaves (modify f : Action Unit) := h

theorem Action.Leaves.bind {a : Action α} {f : α → Action β} (ha : a.Leaves)
    (hf : ∀ x, (f x).Leaves) : (a >>= f).Leaves := by
  intro s
  have hfirst := ha s
  rw [ExceptT.run_bind, StateT.run_bind]
  cases hrun : StateT.run (ExceptT.run a) s with
  | mk r s' =>
    rw [hrun] at hfirst
    cases r with
    | error fault => exact hfirst
    | ok x => exact (hf x s').trans hfirst

theorem leaves_settleHost (host : Option String) : Action.Leaves (settleHost host) := by
  rw [settleHost]
  refine .bind .get fun s => ?_
  simp only
  split
  · split
    · exact .pure ()
    · exact .throw _
  · exact .modify fun _ => rfl

theorem leaves_settleSuite (suite : CipherSuite) : Action.Leaves (settleSuite suite) := by
  rw [settleSuite]
  refine .bind .get fun s => ?_
  split
  · split
    · exact .pure ()
    · exact .throw _
  · exact .pure ()

theorem leaves_answer12 (hello : ClientHello) (schemes : List Nat) (choice : Choice) (group : Group) :
    (answer12 hello schemes choice group).Leaves := by
  rw [answer12]
  refine .bind .get fun s => ?_
  refine .bind (.of_except _) fun _ => ?_
  refine .bind (.of_except _) fun _ => ?_
  refine .bind (.of_except _) fun _ => ?_
  refine .bind (.of_except _) fun _ => ?_
  exact .modify fun s => Party.intake_emitMessages s _

theorem leaves_retry (hello : ClientHello) (choice : Choice) (group : Group) :
    (retry hello choice group).Leaves := by
  rw [retry]
  refine .modify fun s => ?_
  exact (Party.intake_emitChangeCipherSpec _).trans (Party.intake_emitMessages s _)

theorem leaves_open13 (hello : ClientHello) (choice : Choice) (group : Group) :
    (open13 hello choice group).Leaves := by
  rw [open13]
  refine .modify fun s => ?_
  simp only
  split
  · exact Party.intake_emitMessages s _
  · exact (Party.intake_emitChangeCipherSpec _).trans (Party.intake_emitMessages s _)

theorem leaves_complete13 (hello : ClientHello) (choice : Choice) :
    (complete13 hello choice).Leaves := by
  rw [complete13]
  exact .modify fun s => Party.intake_emitMessages s _

theorem leaves_answer13 (hello : ClientHello) (schemes : List Nat) (choice : Choice) (group : Group) :
    (answer13 hello schemes choice group).Leaves := by
  rw [answer13]
  refine .bind (.of_except _) fun shares => ?_
  refine .bind .get fun s => ?_
  refine .bind (.of_except _) fun _ => ?_
  refine .bind (.of_except _) fun _ => ?_
  refine .bind (.of_except _) fun share => ?_
  split
  · exact leaves_retry hello choice group
  · refine .bind (.of_except _) fun _ => ?_
    refine .bind (.of_except _) fun _ => ?_
    refine .bind (leaves_open13 hello choice group) fun _ => ?_
    refine .bind (.of_except _) fun _ => ?_
    refine .bind .get fun s => ?_
    refine .bind (.of_except _) fun _ => ?_
    exact leaves_complete13 hello choice

theorem leaves_handleHello (m : Message) : (handleHello m).Leaves := by
  rw [handleHello]
  refine .bind (.of_except _) fun hello => ?_
  refine .bind .get fun s => ?_
  refine .bind (.of_except _) fun _ => ?_
  refine .bind (.of_except _) fun host => ?_
  refine .bind (leaves_settleHost host) fun _ => ?_
  refine .bind (.of_except _) fun schemes => ?_
  refine .bind .get fun s => ?_
  refine .bind (.of_except _) fun version => ?_
  refine .bind (.modify fun _ => rfl) fun _ => ?_
  refine .bind (.of_except _) fun group => ?_
  refine .bind (.of_except _) fun suite => ?_
  refine .bind (leaves_settleSuite suite) fun _ => ?_
  split
  · exact leaves_answer12 hello schemes _ group
  · exact leaves_answer13 hello schemes _ group


theorem Action.Leaves.run {a : Action Unit} (h : a.Leaves) (s : Server) :
    (a.run s).1.intake = s.intake := by
  rw [← h s, Action.run]
  split <;> next hrun => rw [hrun]

/-! ### Handlers -/

theorem intake_handleCertificate (m : Message) (s : Server) :
    (handleCertificate m s).1.intake = s.intake := by
  rw [handleCertificate]
  split
  · rfl
  · split <;> rfl
  · split <;> rfl

theorem intake_handleKey (m : Message) (s : Server) : (handleKey m s).1.intake = s.intake := by
  rw [handleKey]
  split
  · rfl
  · split
    · rfl
    · split <;> rfl

theorem intake_handleProof (a : Arrival) (s : Server) : (handleProof a s).1.intake = s.intake := by
  rw [handleProof]
  split
  · split <;> rfl
  · rfl
  · rfl

theorem intake_finish (choice : Choice) (s : Server) : (finish choice s).intake = s.intake := by
  rw [finish]
  split
  · exact (Party.intake_emitMessages _ _).trans (Party.intake_emitChangeCipherSpec s)
  · exact Party.intake_emitMessages _ _

theorem intake_handleFinished (a : Arrival) (s : Server) :
    (handleFinished a s).1.intake = s.intake := by
  rw [handleFinished]
  split
  · rfl
  · split
    · exact intake_finish _ s.proceed
    · rfl

theorem intake_handleAwaited (awaited : Awaited) (a : Arrival) (s : Server) :
    (handleAwaited awaited a s).1.intake = s.intake := by
  cases awaited with
  | clientHello => exact (leaves_handleHello a.message).run s
  | certificate => exact intake_handleCertificate a.message s
  | clientKeyExchange => exact intake_handleKey a.message s
  | certificateVerify => exact intake_handleProof a s
  | finished => exact intake_handleFinished a s
  | _ => rfl

theorem steady_handlers : Party.Steady handlers where
  awaited awaited a s s' h := by
    rw [← intake_handleAwaited awaited a s]
    exact congrArg (fun handled => Party.intake handled.1) h.symm
  aside _ _ _ h := by cases h
  later _ _ _ h := by cases h

/-! ### Records -/

theorem feed_eq {s s' : Server} {bs : Bytes} {count : Nat} (h : feed s bs = (s', .ok count)) :
    s' = s.take (bs.take count) := by
  rw [feed] at h
  simp only at h
  split at h
  · cases h
  · cases h
    exact congrArg _ (List.prefix_iff_eq_take.mp (List.take_prefix _ _))

/-- A record that is fed whole stands behind what was taken before. -/
theorem fed_eq {s fed : Server} {record : Bytes} (h : Tls.feed provider s record = (fed, .ok ())) :
    fed = s.take record := by
  refine Tls.feed_whole (P := provider) (R := fun s record fed => fed = s.take record)
    (fun s => ?_) (fun s record s' count fed _ hfeed hrest => ?_) h
  · show s = { s with incoming := s.incoming ++ [] }
    rw [List.append_nil]
  · rw [hrest, feed_eq hfeed]
    show { s with incoming := (s.incoming ++ _) ++ _ } = { s with incoming := s.incoming ++ record }
    rw [List.append_assoc, List.take_append_drop]

/-- Nothing has failed, a peer that has closed had ended the handshake before, and what is left of
the input cannot be opened. -/
structure Standing (s : Server) : Prop where
  failure : s.failure = none
  orderly : s.Orderly
  backlog : ∃ records : List Bytes, s.incoming = records.flatten ∧ ∀ r ∈ records, s.Unopenable r

/-- All input was handled. -/
theorem Standing.of_handled {s : Server} (hfailure : s.failure = none) (horderly : s.Orderly)
    (hnone : s.incoming = []) : Standing s :=
  ⟨hfailure, horderly, [], hnone, List.forall_mem_nil _⟩

theorem standing_fresh (number : Nat) (config : ServerConfig) : Standing (fresh number config) :=
  .of_handled rfl (fun hclosed => by cases hclosed) rfl

/-- Taking plaintext or output out changes nothing of that. -/
theorem Standing.taken {s : Server} (h : Standing s) (plaintext outgoing : Bytes) :
    Standing { s with plaintext, outgoing } := by
  obtain ⟨hfailure, horderly, records, hincoming, hrecords⟩ := h
  refine ⟨hfailure, horderly, records, hincoming, ?_⟩
  intro r hr
  exact (hrecords r hr).congr rfl rfl rfl rfl

def view : Tls.View Server where
  plaintext := Party.plaintext
  output := Party.outgoing
  emptied s := { s with plaintext := [], outgoing := [] }

/-- A record that was processed without a fault. -/
theorem processed {s : Server} (h : Standing s) (hplaintext : s.plaintext = [])
    (houtgoing : s.outgoing = []) {record : Bytes} (hrecord : Record.IsRecord record)
    (hdone : (Party.process handlers (s.take record)).failure = none) :
    Standing (Party.process handlers (s.take record)) ∧
      ((Party.process handlers (s.take record)).plaintext ≠ [] ∨
        (Party.process handlers (s.take record)).peerClosed = true →
          (Party.process handlers (s.take record)).outgoing = []) := by
  obtain ⟨hfailure, horderly, backlog, hincoming, hbacklog⟩ := h
  have hstands : (s.take record).failure.isSome ≠ true := by
    show s.failure.isSome ≠ true
    rw [hfailure]
    exact Bool.false_ne_true
  have hpos : 0 < (s.take record).incoming.length := by
    obtain ⟨header, body, -, -, hlength⟩ := Record.front?_of_isRecord hrecord
    show 0 < (s.incoming ++ record).length
    rw [List.length_append, hlength, Record.headerLength]
    omega
  have hincoming' : (s.take record).incoming = backlog.flatten ++ record :=
    congrArg (· ++ record) hincoming
  rw [Party.process, if_neg hstands] at hdone ⊢
  have hbacklog' : ∀ r ∈ backlog, (s.take record).Unopenable r := by
    intro r hr
    exact (hbacklog r hr).congr rfl rfl rfl rfl
  rcases Party.handleRecords_backlog steady_handlers hbacklog' hrecord hincoming' hpos hdone with
    ⟨hunopenable, left, hleft⟩ | ⟨hnone, hsettles⟩
  · rw [hleft]
    refine ⟨⟨hfailure, horderly, backlog ++ [record], ?_, ?_⟩, fun _ => houtgoing⟩
    · show (s.take record).incoming = _
      rw [hincoming', List.flatten_append, List.flatten_singleton]
    · intro r hr
      rcases List.mem_append.mp hr with hr | hr
      · exact (hbacklog' r hr).congr rfl rfl rfl rfl
      · rw [List.mem_singleton.mp hr]
        exact hunopenable.congr rfl rfl rfl rfl
  · refine ⟨.of_handled (hsettles.failure.trans hfailure) (hsettles.orderly horderly) hnone, ?_⟩
    intro hseen
    rcases hsettles.quiet horderly with hquiet | ⟨hsame, hopen⟩
    · exact hquiet.trans houtgoing
    · rw [hsame, hopen] at hseen
      rcases hseen with hsome | hclosed
      · exact absurd hplaintext hsome
      · cases hclosed

theorem wantsWrite_iff (s : Server) : provider.wantsWrite s = true ↔ s.outgoing ≠ [] := by
  show (!s.outgoing.isEmpty) = true ↔ s.outgoing ≠ []
  rw [Bool.not_eq_true', List.isEmpty_eq_false_iff]

theorem readPlaintext_of_ne_nil {s : Server} (h : s.plaintext ≠ []) (room : Nat) :
    readPlaintext s room =
      ({ s with plaintext := s.plaintext.drop room }, .bytes (s.plaintext.take room)) := by
  rw [readPlaintext, if_neg]
  rw [List.isEmpty_iff]
  exact h

/-- The queue is given away from the front. -/
theorem flushesFront {κ : Type} {kept : Server → κ} {live : Server → Prop}
    (hkept : ∀ (s : Server) outgoing, kept { s with outgoing } = kept s)
    (hlive : ∀ (s : Server) outgoing, live s → live { s with outgoing }) :
    Tls.FlushesFront provider Party.outgoing kept live where
  wantsWrite s _ := wantsWrite_iff s
  flushed s room s' bs hs _ h := by
    cases h
    exact ⟨hlive s _ hs, List.length_take_le _ _, (List.take_append_drop _ _).symm, hkept s _⟩

theorem lawful : view.Lawful provider Standing where
  toFlushesFront := flushesFront (fun _ _ => rfl) fun s outgoing hs => hs.taken s.plaintext outgoing
  read s room s' bs hs hsome hroom h := by
    have hread : provider.readPlaintext s room = _ := readPlaintext_of_ne_nil hsome room
    rw [hread] at h
    cases h
    exact ⟨hs.taken _ _, Bytes.take_ne_nil hsome hroom, List.length_take_le _ _,
      (List.take_append_drop _ _).symm, rfl⟩
  ready s room _ hsome _ := by
    have hread : provider.readPlaintext s room = _ := readPlaintext_of_ne_nil hsome room
    rw [hread]
    nofun
  processed s record fed s' progress hs hplaintext houtgoing hrecord hfeed hprocess := by
    have hprocess' : process fed = (s', .ok progress) := hprocess
    rw [fed_eq hfeed, process] at hprocess'
    simp only [Prod.mk.injEq] at hprocess'
    obtain ⟨rfl, hprogress⟩ := hprocess'
    split at hprogress
    · cases hprogress
    · next hdone =>
      cases hprogress
      obtain ⟨hs', hquiet⟩ := processed hs hplaintext houtgoing hrecord hdone
      exact ⟨hs', rfl, hquiet⟩
  emptied s _ hplaintext houtgoing := by
    cases s
    cases hplaintext
    cases houtgoing
    rfl

end Server

end RecordLayer.Symbolic
