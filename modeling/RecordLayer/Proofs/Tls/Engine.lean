import RecordLayer.Proofs.Transfer
import RecordLayer.Tls.Engine

/-!
# The engine over any session

What holds of `Tls.engine` whatever the session does. Flushing asks it for output again and again,
feeding hands it over and over what is left of a record, and handing out asks it for plaintext once.

* `flush_moves`: a relation that holds of every turn, and of two in a row, holds of the whole loop;
* `flush_keeps`, `feed_keeps` and `deliver_keeps`: the loops keep what each turn keeps, and
  `feed_whole` is induction on a record that is fed to its end;
* `flush_never_fails`: the loop fails only if a turn does, and `length_flush_le`: it keeps to its room;
* `handshakeStatus_eq_needWrap`, `flushStatus_eq_overflow` and `unwrapStatus_eq_overflow`: output
  and plaintext that wait show in the statuses.
-/

namespace RecordLayer.Tls

variable {ρ : Type} {P : Provider ρ} {live : ρ → Prop}

theorem handshakeStatus_eq_needWrap (P : Provider ρ) (s : State ρ) :
    handshakeStatus P s = .needWrap ↔ P.wantsWrite s.session = true := by
  rw [handshakeStatus]
  split
  · next hwants => exact ⟨fun _ => hwants, fun _ => rfl⟩
  · next hnone =>
    constructor
    · intro hseen
      split at hseen <;> cases hseen
    · intro hwants
      exact absurd hwants hnone

theorem flushStatus_eq_overflow (P : Provider ρ) (s : ρ) :
    flushStatus P s = .overflow ↔ P.wantsWrite s = true := by
  rw [flushStatus]
  split
  · next hwants => exact iff_of_true rfl hwants
  · next hnone => exact iff_of_false (by decide) hnone

theorem unwrapStatus_eq_overflow (s : State ρ) : unwrapStatus s = .overflow ↔ 0 < s.pending := by
  rw [unwrapStatus]
  split
  · next hpending => exact iff_of_true rfl hpending
  · next hnone =>
    split
    · exact iff_of_false (by decide) hnone
    · exact iff_of_false (by decide) hnone

/-- A call that has processed a record ends without need of more only because the peer has closed. -/
theorem peerClosed_of_unwrapStatus {s : State ρ}
    (h : unwrapStatus s = .underflow ∨ unwrapStatus s = .closed) : s.peerClosed = true := by
  rw [unwrapStatus] at h
  split at h
  · rcases h with h | h <;> cases h
  · split at h
    · next hclosed => exact hclosed
    · rcases h with h | h <;> cases h

theorem taskless_engine (P : Provider ρ) : Transfer.Taskless (engine P) := by
  intro s
  show handshakeStatus P s ≠ .needTask
  rw [handshakeStatus]
  split
  · nofun
  · split <;> nofun

/-! ### Flushing -/

theorem flush_idle {s : ρ} (hwants : P.wantsWrite s ≠ true) (room : Nat) :
    flush P s room = ⟨s, [], none⟩ := by
  rw [flush, if_neg hwants]

theorem flush_failed {s s' : ρ} {room : Nat} {text : String} (hwants : P.wantsWrite s = true)
    (hflush : P.flush s room = (s', .error text)) :
    flush P s room = ⟨s', [], some (.io text)⟩ := by
  rw [flush, if_pos hwants, hflush]

theorem flush_stuck {s s' : ρ} {room : Nat} (hwants : P.wantsWrite s = true)
    (hflush : P.flush s room = (s', .ok [])) : flush P s room = ⟨s', [], none⟩ := by
  rw [flush, if_pos hwants, hflush]
  simp only [List.take_nil, List.length_nil, dite_true]

theorem flush_more {s s' : ρ} {room : Nat} {bs : Bytes} (hwants : P.wantsWrite s = true)
    (hflush : P.flush s room = (s', .ok bs)) (hlength : bs.length ≤ room) (hbs : bs ≠ []) :
    flush P s room =
      { flush P s' (room - bs.length) with
        written := bs ++ (flush P s' (room - bs.length)).written } := by
  have hsome : bs.length ≠ 0 := by
    rw [← List.length_pos_iff] at hbs
    omega
  rw [flush, if_pos hwants, hflush]
  simp only [List.take_of_length_le hlength, dif_neg hsome]

/-- Flushing writes no more than there is room for. -/
theorem length_flush_le (P : Provider ρ) (s : ρ) (room : Nat) :
    (flush P s room).written.length ≤ room := by
  induction s, room using flush.induct P with
  | case1 s room hwants s' text hflush =>
    rw [flush, if_pos hwants, hflush]
    exact Nat.zero_le _
  | case2 s room hwants s' bs hflush hnone =>
    rw [flush, if_pos hwants, hflush]
    simp only [dif_pos hnone]
    exact Nat.zero_le _
  | case3 s room hwants s' bs hflush hsome ih =>
    have htaken := List.length_take_le room bs
    rw [flush, if_pos hwants, hflush]
    simp only [dif_neg hsome, List.length_append]
    omega
  | case4 s room hwants =>
    rw [flush_idle hwants]
    exact Nat.zero_le _

/-- Flushing keeps what a turn keeps, also when it fails. -/
theorem flush_keeps {K : ρ → Prop} (hturn : ∀ s room, K s → K (P.flush s room).1) {s : ρ} (h : K s)
    (room : Nat) : K (flush P s room).session := by
  induction s, room using flush.induct P with
  | case1 s room hwants s' text hflush =>
    have hnext := hturn s room h
    rw [hflush] at hnext
    rw [flush_failed hwants hflush]
    exact hnext
  | case2 s room hwants s' bs hflush hnone =>
    have hnext := hturn s room h
    rw [hflush] at hnext
    rw [flush, if_pos hwants, hflush]
    simp only [dif_pos hnone]
    exact hnext
  | case3 s room hwants s' bs hflush hsome ih =>
    have hnext := hturn s room h
    rw [hflush] at hnext
    rw [flush, if_pos hwants, hflush]
    simp only [dif_neg hsome]
    exact ih hnext
  | case4 s room hwants =>
    rw [flush_idle hwants]
    exact h

/-- By induction along the loop. -/
theorem flush_moves {K : ρ → Prop} {R : ρ → Bytes → ρ → Prop} (hrefl : ∀ s, R s [] s)
    (htrans : ∀ a b c xs ys, R a xs b → R b ys c → R a (xs ++ ys) c)
    (hturn : ∀ s room s' bs, K s → P.wantsWrite s = true → P.flush s room = (s', .ok bs) →
      K s' ∧ bs.length ≤ room ∧ R s bs s')
    {s : ρ} {room : Nat} (hs : K s) (hfailure : (flush P s room).failure = none) :
    K (flush P s room).session ∧ (flush P s room).written.length ≤ room ∧
      R s (flush P s room).written (flush P s room).session := by
  induction room using Nat.strongRecOn generalizing s with
  | ind room ih =>
    by_cases hwants : P.wantsWrite s = true
    · rcases hflush : P.flush s room with ⟨s', text | bs⟩
      · rw [flush_failed hwants hflush] at hfailure
        cases hfailure
      · obtain ⟨hkept, hlength, hmoved⟩ := hturn s room s' bs hs hwants hflush
        by_cases hbs : bs = []
        · subst hbs
          rw [flush_stuck hwants hflush]
          exact ⟨hkept, Nat.zero_le _, hmoved⟩
        · have hpos := List.length_pos_iff.mpr hbs
          rw [flush_more hwants hflush hlength hbs] at hfailure ⊢
          obtain ⟨hkept', hlength', hmoved'⟩ := ih _ (by omega) hkept hfailure
          refine ⟨hkept', ?_, htrans _ _ _ _ _ hmoved hmoved'⟩
          rw [List.length_append]
          omega
    · rw [flush_idle hwants]
      exact ⟨hs, Nat.zero_le _, hrefl s⟩

theorem flush_never_fails
    (hturn : ∀ s room, live s → P.wantsWrite s = true → ∃ s' bs,
      P.flush s room = (s', .ok bs) ∧ bs.length ≤ room ∧ live s')
    {s : ρ} (hs : live s) (room : Nat) : (flush P s room).failure = none := by
  induction room using Nat.strongRecOn generalizing s with
  | ind room ih =>
    by_cases hwants : P.wantsWrite s = true
    · obtain ⟨s', bs, hflush, hlength, hlive⟩ := hturn s room hs hwants
      by_cases hbs : bs = []
      · subst hbs
        rw [flush_stuck hwants hflush]
      · have hpos := List.length_pos_iff.mpr hbs
        rw [flush_more hwants hflush hlength hbs]
        exact ih _ (by omega) hlive
    · rw [flush_idle hwants]

/-! ### Feeding -/

/-- Feeding a record keeps what taking some of it keeps. -/
theorem feed_keeps {K : ρ → Prop} (hturn : ∀ s bs, K s → K (P.feed s bs).1) {s : ρ} (h : K s)
    (record : Bytes) : K (feed P s record).1 := by
  induction s, record using feed.induct P with
  | case1 s =>
    rw [feed]
    exact h
  | case2 s record hsome s' text hfeed =>
    have hnext := hturn s record h
    rw [hfeed] at hnext
    rw [feed, dif_neg hsome, hfeed]
    exact hnext
  | case3 s record hsome s' hfeed =>
    have hnext := hturn s record h
    rw [hfeed] at hnext
    rw [feed, dif_neg hsome, hfeed]
    exact hnext
  | case4 s record hsome s' count hfeed ih =>
    have hnext := hturn s record h
    rw [hfeed] at hnext
    rw [feed, dif_neg hsome, hfeed]
    exact ih hnext

/-- Induction on a record that is fed to its end. -/
theorem feed_whole {R : ρ → Bytes → ρ → Prop} (hdone : ∀ s, R s [] s)
    (hmore : ∀ s record s' count fed, record ≠ [] → P.feed s record = (s', .ok (count + 1)) →
      R s' (record.drop (count + 1)) fed → R s record fed)
    {s fed : ρ} {record : Bytes} (h : feed P s record = (fed, .ok ())) : R s record fed := by
  induction s, record using feed.induct P with
  | case1 s =>
    rw [feed] at h
    cases h
    exact hdone _
  | case2 s record hsome s' text hfeed =>
    rw [feed, dif_neg hsome, hfeed] at h
    cases h
  | case3 s record hsome s' hfeed =>
    rw [feed, dif_neg hsome, hfeed] at h
    cases h
  | case4 s record hsome s' count hfeed ih =>
    rw [feed, dif_neg hsome, hfeed] at h
    exact hmore s record s' count fed hsome hfeed (ih h)

/-! ### Handing out -/

/-- Handing out keeps what reading keeps. -/
theorem deliver_keeps {K : ρ → Prop} (hturn : ∀ s room, K s → K (P.readPlaintext s room).1)
    {s : State ρ} (h : K s.session) (room : Nat) : K (deliver P s room).1.session := by
  by_cases hnone : s.pending = 0 ∨ room = 0
  · rw [deliver, if_pos hnone]
    exact h
  · have hnext := hturn s.session room h
    rw [deliver, if_neg hnone]
    rcases hread : P.readPlaintext s.session room with ⟨session, bs | _ | text⟩ <;>
      rw [hread] at hnext <;> exact hnext

end RecordLayer.Tls
