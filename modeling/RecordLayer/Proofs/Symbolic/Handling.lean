import RecordLayer.Symbolic.Party

/-!
# What a record does to a party

A record is data, the end of the peer's data, some other notice, or a part of the handshake. Only
the handshake queues output, and it touches nothing of what has come in otherwise.

* `Party.intake` is what has come in and is no handshake; `Handlers.Steady` says that a role's
  handlers leave it alone;
* `Party.Settles` is the account of a record that was handled without a fault, and
  `handleContent_settles` gives it for every kind of content.
-/

namespace RecordLayer.Symbolic

open Wire

variable {δ : Type}

namespace Party

/-- What has come in and is no handshake, and whether the session still stands. -/
def intake (p : Party δ) : Bytes × Bool × Bytes × Option ProtocolError :=
  (p.plaintext, p.peerClosed, p.incoming, p.failure)

/-! ### Output leaves the intake alone -/

/-- What one record keeps is kept by all records of some content. -/
theorem emit_kept (kept : Party δ → Prop) {type : ContentType}
    (hrecord : ∀ p plain, kept p → kept (emitRecord p type plain)) (p : Party δ) (plain : Bytes)
    (h : kept p) : kept (p.emit type plain) := by
  induction p, plain using emit.induct type with
  | case1 p =>
    rw [emit, dif_pos rfl]
    exact h
  | case2 p plain hplain ih =>
    rw [emit, dif_neg hplain]
    exact ih (hrecord p _ h)

/-- Queueing changes the queue and the place in the sequence, and nothing else. -/
theorem emitRecord_eq (p : Party δ) (type : ContentType) (plain : Bytes) :
    ∃ outgoing sending, p.emitRecord type plain = { p with outgoing, sending } := by
  rw [emitRecord]
  split
  · exact ⟨_, p.sending, rfl⟩
  · exact ⟨_, _, rfl⟩

theorem emit_eq (p : Party δ) (type : ContentType) (plain : Bytes) :
    ∃ outgoing sending, p.emit type plain = { p with outgoing, sending } := by
  apply emit_kept (fun q => ∃ outgoing sending, q = { p with outgoing, sending }) _ p plain
  · exact ⟨p.outgoing, p.sending, rfl⟩
  · rintro q more ⟨outgoing, sending, rfl⟩
    obtain ⟨outgoing', sending', hq⟩ :=
      emitRecord_eq ({ p with outgoing, sending } : Party δ) type more
    exact ⟨outgoing', sending', hq⟩

@[simp] theorem intake_emit (p : Party δ) (type : ContentType) (plain : Bytes) :
    (p.emit type plain).intake = p.intake := by
  obtain ⟨outgoing, sending, h⟩ := p.emit_eq type plain
  rw [h]
  rfl

@[simp] theorem intake_emitMessages (p : Party δ) (messages : List Message) :
    (p.emitMessages messages).intake = p.intake :=
  intake_emit _ _ _

@[simp] theorem intake_emitChangeCipherSpec (p : Party δ) :
    p.emitChangeCipherSpec.intake = p.intake :=
  intake_emit ({ p with sending := none } : Party δ) _ _

/-! ### Handshake messages -/

/-- A role's handlers leave the intake alone, and after the handshake also the output. -/
structure Steady (handlers : Handlers δ) : Prop where
  awaited : ∀ a arrival p q, handlers.awaited a arrival p = (q, none) → q.intake = p.intake
  aside : ∀ m p q, handlers.aside? m p = some q → q.intake = p.intake
  later : ∀ m p q, handlers.later m p = (q, none) →
    q.intake = p.intake ∧ q.outgoing = p.outgoing ∧ q.awaited = p.awaited

/-- What handshake messages do: after the handshake they queue nothing and start nothing anew. -/
structure Continues (p q : Party δ) : Prop where
  intake : q.intake = p.intake
  ended : p.awaited = [] → q.outgoing = p.outgoing ∧ q.awaited = []

theorem Continues.refl (p : Party δ) : Continues p p :=
  ⟨rfl, fun h => ⟨rfl, h⟩⟩

theorem Continues.trans {p q r : Party δ} (h : Continues p q) (h' : Continues q r) :
    Continues p r := by
  refine ⟨h'.intake.trans h.intake, fun hover => ?_⟩
  obtain ⟨houtgoing, hawaited⟩ := h.ended hover
  obtain ⟨houtgoing', hawaited'⟩ := h'.ended hawaited
  exact ⟨houtgoing'.trans houtgoing, hawaited'⟩

variable {handlers : Handlers δ} {p q : Party δ}

theorem handleMessage_continues (hsteady : Steady handlers) {form : TlsVersion} {m : Message}
    (h : handleMessage handlers p form m = (q, none)) : Continues p q := by
  rw [handleMessage] at h
  split at h
  · cases h
  · simp only at h
    split at h
    · next hover =>
      obtain ⟨hintake, houtgoing, hawaited⟩ := hsteady.later _ _ _ h
      exact ⟨hintake, fun _ => ⟨houtgoing, hawaited.trans hover⟩⟩
    · next awaited rest hawaits =>
      have hnot : p.awaited ≠ [] := by
        rw [hawaits]
        exact List.cons_ne_nil _ _
      refine ⟨?_, fun hover => absurd hover hnot⟩
      split at h
      · next aside haside =>
        cases h
        exact (hsteady.aside _ _ _ haside).trans rfl
      · split at h
        · cases h
        · split at h
          · exact (hsteady.awaited _ _ _ _ h).trans rfl
          · cases h

/-- By induction on the number of messages. -/
theorem handleMessages_continues (hsteady : Steady handlers) (messages : Nat)
    (h : handleMessages handlers messages p = (q, none)) : Continues p q := by
  induction messages generalizing p with
  | zero =>
    cases h
    exact .refl _
  | succ messages ih =>
    rw [handleMessages] at h
    split at h
    · cases h
      exact .refl _
    · simp only at h
      split at h
      · cases h
      · next next hmessage =>
        have hfirst := handleMessage_continues hsteady hmessage
        exact Continues.trans ⟨hfirst.intake, hfirst.ended⟩ (ih h)

/-! ### Contents -/

/-- A peer that has closed had ended the handshake before. -/
def Orderly (p : Party δ) : Prop :=
  p.peerClosed = true → p.awaited = []

/-- What handling a content comes to: either nothing is queued, or there is nothing new to read. -/
structure Settles (p q : Party δ) : Prop where
  failure : q.failure = p.failure
  incoming : p.incoming = [] → q.incoming = []
  orderly : p.Orderly → q.Orderly
  quiet : p.Orderly → q.outgoing = p.outgoing ∨
    q.plaintext = p.plaintext ∧ q.peerClosed = false

/-- A content that queues nothing and leaves the handshake where it is. -/
theorem settles_of_silent (hfailure : q.failure = p.failure)
    (hincoming : p.incoming = [] → q.incoming = []) (houtgoing : q.outgoing = p.outgoing)
    (hawaited : q.awaited = p.awaited) (hclosed : q.peerClosed = true → p.Orderly → p.awaited = []) :
    Settles p q := by
  refine ⟨hfailure, hincoming, fun horderly hq => ?_, fun _ => .inl houtgoing⟩
  rw [hawaited]
  exact hclosed hq horderly

theorem Continues.settles (h : Continues p q) : Settles p q := by
  obtain ⟨hintake, hover⟩ := h
  simp only [Party.intake, Prod.mk.injEq] at hintake
  obtain ⟨hplaintext, hclosed, hincoming, hfailure⟩ := hintake
  refine ⟨hfailure, fun hnone => hincoming.trans hnone, ?_, ?_⟩
  · intro horderly hq
    rw [hclosed] at hq
    exact (hover (horderly hq)).2
  · intro horderly
    cases hp : p.peerClosed with
    | true => exact .inl (hover (horderly hp)).1
    | false => exact .inr ⟨hplaintext, hclosed.trans hp⟩

theorem handleWarning_settles {alert : Alert} (h : p.handleWarning alert = (q, none)) :
    Settles p q := by
  rw [handleWarning] at h
  split at h
  · cases h
  · split at h
    · cases h
    · cases h
      exact settles_of_silent rfl id rfl rfl fun hclosed horderly => horderly hclosed

theorem handleAlert_settles {body : Bytes} (h : p.handleAlert body = (q, none)) : Settles p q := by
  unfold handleAlert at h
  split at h
  · cases h
  · cases h
  · simp only at h
    split at h
    · cases h
    · split at h
      · next hend =>
        cases h
        have hover : p.awaited = [] := by
          have hnot := hend.2
          rw [isHandshaking, Bool.not_eq_true', Bool.not_eq_false, List.isEmpty_iff] at hnot
          exact hnot
        exact settles_of_silent rfl (fun _ => rfl) rfl rfl fun _ _ => hover
      · split at h
        · exact handleWarning_settles h
        · cases h
  · cases h

theorem handleChangeCipherSpec_settles {body : Bytes}
    (h : p.handleChangeCipherSpec body = (q, none)) : Settles p q := by
  rw [handleChangeCipherSpec] at h
  split at h
  · split at h
    · cases h
    · split at h
      · cases h
      · cases h
        exact settles_of_silent rfl id rfl rfl fun hclosed horderly => horderly hclosed
  · split at h
    · cases h
    · split at h
      · cases h
      · split at h
        · next rest choice hawaits _ =>
          cases h
          refine ⟨rfl, id, fun horderly hclosed => ?_, fun _ => .inl rfl⟩
          have hover := horderly hclosed
          rw [hawaits] at hover
          cases hover
        · cases h

theorem passOver?_eq {length : Nat} (h : p.passOver? length = some q) :
    ∃ left, q = { p with earlyLeft := left } := by
  simp only [passOver?, Option.bind_eq_bind, Option.bind_eq_some_iff] at h
  obtain ⟨left, -, h⟩ := h
  split at h
  · cases h
    exact ⟨_, rfl⟩
  · cases h

theorem handleData_settles {body : Bytes} (h : p.handleData body = (q, none)) : Settles p q := by
  rw [handleData] at h
  split at h
  · cases h
    exact settles_of_silent rfl id rfl rfl fun hclosed horderly => horderly hclosed
  · split at h
    · next q' _ hpassed =>
      cases h
      obtain ⟨left, rfl⟩ := passOver?_eq hpassed
      exact settles_of_silent rfl id rfl rfl fun hclosed horderly => horderly hclosed
    · cases h

theorem handleContent_settles (hsteady : Steady handlers) {c : Content}
    (h : handleContent handlers p c = (q, none)) : Settles p q := by
  rw [handleContent] at h
  split at h
  · exact handleChangeCipherSpec_settles h
  · exact handleAlert_settles h
  · simp only at h
    split at h
    · cases h
    · have hcontinues := handleMessages_continues hsteady _ h
      exact Continues.settles ⟨hcontinues.intake, hcontinues.ended⟩
  · exact handleData_settles h
  · cases h
  · cases h

end Party

end RecordLayer.Symbolic
