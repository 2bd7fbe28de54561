import RecordLayer.Proofs.Tls.Calls

/-!
# What is relied on of sessions

A session holds plaintext that nobody has read and output that nobody has flushed. Results about the
engine rely on it to give both away from the front, however large the regions are. What several of
them rely on is stated here once, with what follows for the loops of the engine. `live` are the
sessions that are relied on, and `kept` is what an operation leaves as it is.

* `ReadsFront` is about reading, and `ReadsFront.deliver` about handing out; a session that
  `Releases` gives as much as there is room for, and one that `HandsOut` changes nothing else;
* `FlushesFront` is about one flush, and `FlushesFront.flush` about the loop; a session that
  `Queues` does not fail over it, and one that `Drains` at least has less to flush;
* `OpensQuietly` is about a record that is fed when nothing waits;
* a `View` tells what waits in a session, and `View.Lawful` relies on all of this: reading and
  flushing take from the front and touch nothing else, and a record that yields plaintext or the end
  of the peer's data queues no output.
-/

namespace RecordLayer.Tls

variable {ρ κ : Type}

/-! ### Assumptions -/

/-- Reading takes plaintext from the front. -/
structure ReadsFront (P : Provider ρ) (plaintext : ρ → Bytes) (kept : ρ → κ) (live : ρ → Prop) :
    Prop where
  read : ∀ s room s' bs, live s → plaintext s ≠ [] → 0 < room →
    P.readPlaintext s room = (s', .bytes bs) →
      live s' ∧ bs ≠ [] ∧ bs.length ≤ room ∧ plaintext s = bs ++ plaintext s' ∧ kept s' = kept s
  ready : ∀ s room, live s → plaintext s ≠ [] → 0 < room → (P.readPlaintext s room).2 ≠ .wouldBlock

/-- A session counts the plaintext that waits, and reading takes as much of it as there is room for,
from the front. -/
structure Releases (P : Provider ρ) (plaintext : ρ → Bytes) : Prop where
  processed : ∀ s s' progress, P.process s = (s', .ok progress) →
    progress.plaintext = (plaintext s').length
  read : ∀ s room, plaintext s ≠ [] → 0 < room → ∃ s',
    P.readPlaintext s room = (s', .bytes ((plaintext s).take room)) ∧
      plaintext s' = (plaintext s).drop room

/-- Besides, reading changes nothing else. -/
structure HandsOut (P : Provider ρ) (plaintext : ρ → Bytes) (emptied : ρ → ρ) : Prop
    extends Releases P plaintext where
  kept : ∀ s room, plaintext s ≠ [] → 0 < room → emptied (P.readPlaintext s room).1 = emptied s
  emptied : ∀ s, plaintext s = [] → emptied s = s

/-- A session wants to write if some output is queued, and a flush takes from the front of it. -/
structure FlushesFront (P : Provider ρ) (output : ρ → Bytes) (kept : ρ → κ) (live : ρ → Prop) :
    Prop where
  wantsWrite : ∀ s, live s → (P.wantsWrite s = true ↔ output s ≠ [])
  flushed : ∀ s room s' bs, live s → output s ≠ [] → P.flush s room = (s', .ok bs) →
    live s' ∧ bs.length ≤ room ∧ output s = bs ++ output s' ∧ kept s' = kept s

/-- Besides, a flush does not fail. -/
structure Queues (P : Provider ρ) (output : ρ → Bytes) (live : ρ → Prop) : Prop
    extends FlushesFront P output (fun _ => ()) live where
  smooth : ∀ s room, live s → output s ≠ [] → ∃ s' bs, P.flush s room = (s', .ok bs)

/-- As long as output is queued, a region that is not empty receives some of it, and flushing queues
no more. -/
structure Drains (P : Provider ρ) (queued : ρ → Nat) (live : ρ → Prop) : Prop where
  flushed : ∀ s room s' bs, live s → P.wantsWrite s = true → P.flush s room = (s', .ok bs) →
    live s' ∧ bs.length ≤ room ∧ queued s' + bs.length ≤ queued s ∧ (0 < room → bs ≠ [])

/-- A whole record, fed to a session in which nothing waits, queues no output if it yields plaintext
or the end of the peer's data. -/
structure OpensQuietly (P : Provider ρ) (plaintext output : ρ → Bytes) (live : ρ → Prop) :
    Prop where
  processed : ∀ s record fed s' progress, live s → plaintext s = [] → output s = [] →
    Record.IsRecord record → feed P s record = (fed, .ok ()) → P.process fed = (s', .ok progress) →
      live s' ∧ progress.plaintext = (plaintext s').length ∧
        (plaintext s' ≠ [] ∨ progress.peerClosed = true → output s' = [])

/-- What waits in a session, and what it is without that. -/
structure View (ρ : Type) where
  /-- Decrypted bytes that nobody has read. -/
  plaintext : ρ → Bytes
  /-- Queued output that nobody has flushed. -/
  output : ρ → Bytes
  /-- The session after both were taken out. -/
  emptied : ρ → ρ

/-- What holds of all sessions in `live`, and leads to no other ones. -/
structure View.Lawful (V : View ρ) (P : Provider ρ) (live : ρ → Prop) : Prop
    extends FlushesFront P V.output (fun s => (V.plaintext s, V.emptied s)) live,
      ReadsFront P V.plaintext (fun s => (V.output s, V.emptied s)) live,
      OpensQuietly P V.plaintext V.output live where
  emptied : ∀ s, live s → V.plaintext s = [] → V.output s = [] → V.emptied s = s

variable {P : Provider ρ} {plaintext output : ρ → Bytes} {kept : ρ → κ} {live : ρ → Prop}

/-- What is kept shows less. -/
theorem ReadsFront.less {ι : Type} (h : ReadsFront P plaintext kept live) (f : κ → ι) :
    ReadsFront P plaintext (fun s => f (kept s)) live where
  read s room s' bs hs hsome hroom hread := by
    obtain ⟨hlive, hbs, hlength, hfront, hkept⟩ := h.read s room s' bs hs hsome hroom hread
    exact ⟨hlive, hbs, hlength, hfront, congrArg f hkept⟩
  ready := h.ready

theorem FlushesFront.less {ι : Type} (h : FlushesFront P output kept live) (f : κ → ι) :
    FlushesFront P output (fun s => f (kept s)) live where
  wantsWrite := h.wantsWrite
  flushed s room s' bs hs hsome hflush := by
    obtain ⟨hlive, hlength, hfront, hkept⟩ := h.flushed s room s' bs hs hsome hflush
    exact ⟨hlive, hlength, hfront, congrArg f hkept⟩

/-! ### Handing out -/

/-- The engine knows how much plaintext waits. -/
def Counted (plaintext : ρ → Bytes) (s : State ρ) : Prop :=
  s.pending = (plaintext s.session).length

theorem Counted.pending_eq_zero_iff {s : State ρ} (hs : Counted plaintext s) :
    s.pending = 0 ↔ plaintext s.session = [] := by
  have hcount : s.pending = (plaintext s.session).length := hs
  rw [hcount, List.length_eq_zero_iff]

theorem Counted.pending_pos_iff {s : State ρ} (hs : Counted plaintext s) :
    0 < s.pending ↔ plaintext s.session ≠ [] := by
  rw [Nat.pos_iff_ne_zero, ne_eq, hs.pending_eq_zero_iff]

/-- The bytes were taken from the front of the plaintext, and nothing else has changed. -/
structure Delivered (plaintext : ρ → Bytes) (kept : ρ → κ) (live : ρ → Prop) (s : State ρ)
    (bs : Bytes) (s' : State ρ) : Prop where
  live : live s'.session
  counted : Counted plaintext s'
  plaintext : plaintext s.session = bs ++ plaintext s'.session
  kept : kept s'.session = kept s.session
  peerClosed : s'.peerClosed = s.peerClosed

theorem ReadsFront.deliver (h : ReadsFront P plaintext kept live) {s s' : State ρ} {room : Nat}
    {bs : Bytes} (hs : live s.session) (hcounted : Counted plaintext s)
    (hdeliver : deliver P s room = (s', .ok bs)) :
    Delivered plaintext kept live s bs s' ∧ bs.length ≤ room := by
  cases deliver_ok hdeliver with
  | idle => exact ⟨⟨hs, hcounted, rfl, rfl, rfl⟩, Nat.zero_le _⟩
  | @read session got waits space hread =>
    obtain ⟨hlive, hgot, hlength, hfront, hkept⟩ :=
      h.read _ _ _ _ hs (hcounted.pending_pos_iff.mp waits) space hread
    have hcount : s.pending = (plaintext s.session).length := hcounted
    rw [List.take_of_length_le hlength, if_neg hgot]
    refine ⟨⟨hlive, ?_, hfront, hkept, rfl⟩, hlength⟩
    show s.pending - got.length = (plaintext session).length
    rw [hcount, hfront, List.length_append]
    exact Nat.add_sub_cancel_left _ _
  | blocked waits space hread =>
    have hready := h.ready _ room hs (hcounted.pending_pos_iff.mp waits) space
    rw [hread] at hready
    exact absurd rfl hready

theorem Releases.readsFront (h : Releases P plaintext) {kept : ρ → κ}
    (hkept : ∀ s room, plaintext s ≠ [] → 0 < room → kept (P.readPlaintext s room).1 = kept s) :
    ReadsFront P plaintext kept fun _ => True where
  read s room s' bs _ hsome hroom hread := by
    obtain ⟨left, hread', hleft⟩ := h.read s room hsome hroom
    have hsame := hkept s room hsome hroom
    rw [hread] at hread' hsame
    cases hread'
    refine ⟨trivial, Bytes.take_ne_nil hsome hroom, List.length_take_le _ _, ?_, hsame⟩
    rw [hleft, List.take_append_drop]
  ready s room _ hsome hroom := by
    obtain ⟨left, hread, -⟩ := h.read s room hsome hroom
    rw [hread]
    nofun

/-- As much is handed out as there is room for. -/
theorem Releases.deliver_eq (h : Releases P plaintext) {s : State ρ} (hs : Counted plaintext s)
    (room : Nat) : ∃ left, deliver P s room = (left, .ok ((plaintext s.session).take room)) := by
  by_cases hnone : s.pending = 0 ∨ room = 0
  · have hfirst : (plaintext s.session).take room = [] :=
      List.take_eq_nil_iff.mpr (hnone.symm.imp id hs.pending_eq_zero_iff.mp)
    refine ⟨s, ?_⟩
    rw [Tls.deliver, if_pos hnone, hfirst]
  · have hboth := not_or.mp hnone
    obtain ⟨session, hread, -⟩ := h.read s.session room (mt hs.pending_eq_zero_iff.mpr hboth.1)
      (Nat.pos_of_ne_zero hboth.2)
    simp only [Tls.deliver, if_neg hnone, hread, List.take_take, Nat.min_self, Prod.mk.injEq,
      and_true, exists_eq']

theorem Releases.deliver (h : Releases P plaintext) {s : State ρ} (hs : Counted plaintext s)
    (room : Nat) :
    ∃ left, deliver P s room = (left, .ok ((plaintext s.session).take room)) ∧
      Counted plaintext left ∧ plaintext left.session = (plaintext s.session).drop room ∧
      left.peerClosed = s.peerClosed := by
  obtain ⟨left, hdeliver⟩ := h.deliver_eq hs room
  have hreads : ReadsFront P plaintext (fun _ => ()) fun _ => True :=
    h.readsFront fun _ _ _ _ => rfl
  obtain ⟨hdelivered, -⟩ := hreads.deliver trivial hs hdeliver
  refine ⟨left, hdeliver, hdelivered.counted, ?_, hdelivered.peerClosed⟩
  have hfront := hdelivered.plaintext.symm.trans (List.take_append_drop room _).symm
  exact List.append_cancel_left hfront

/-! ### Flushing -/

theorem FlushesFront.output_eq_nil (h : FlushesFront P output kept live) {s : ρ} (hs : live s)
    (hunwanted : P.wantsWrite s ≠ true) : output s = [] :=
  Classical.not_not.mp (mt (h.wantsWrite s hs).mpr hunwanted)

theorem FlushesFront.flush (h : FlushesFront P output kept live) {s : ρ} {room : Nat} (hs : live s)
    (hsmooth : (flush P s room).failure = none) :
    live (flush P s room).session ∧ (flush P s room).written.length ≤ room ∧
      output s = (flush P s room).written ++ output (flush P s room).session ∧
      kept (flush P s room).session = kept s := by
  refine flush_moves (R := fun a xs b => output a = xs ++ output b ∧ kept b = kept a) ?_ ?_ ?_ hs
    hsmooth
  · exact fun _ => ⟨rfl, rfl⟩
  · rintro a b c xs ys ⟨houtput, hkept⟩ ⟨houtput', hkept'⟩
    exact ⟨by rw [houtput, houtput', List.append_assoc], hkept'.trans hkept⟩
  · intro s room s' bs hs hwants hflush
    exact h.flushed s room s' bs hs ((h.wantsWrite s hs).mp hwants) hflush

theorem Queues.flush (h : Queues P output live) {s : ρ} (hs : live s) (room : Nat) :
    (flush P s room).failure = none ∧ (flush P s room).written.length ≤ room ∧
      output s = (flush P s room).written ++ output (flush P s room).session ∧
      live (flush P s room).session := by
  have hsmooth : (Tls.flush P s room).failure = none := by
    apply flush_never_fails _ hs
    intro s room hs hwants
    have hsome := (h.wantsWrite s hs).mp hwants
    obtain ⟨s', bs, hflush⟩ := h.smooth s room hs hsome
    obtain ⟨hlive, hlength, -⟩ := h.flushed s room s' bs hs hsome hflush
    exact ⟨s', bs, hflush, hlength, hlive⟩
  obtain ⟨hlive, hlength, houtput, -⟩ := h.toFlushesFront.flush hs hsmooth
  exact ⟨hsmooth, hlength, houtput, hlive⟩

variable {queued : ρ → Nat}

/-- Flushing queues no more, and where there is room it leaves less. -/
theorem Drains.flush (h : Drains P queued live) {s : ρ} {room : Nat} (hs : live s)
    (hsmooth : (flush P s room).failure = none) :
    queued (flush P s room).session ≤ queued s ∧
      (P.wantsWrite s = true → 0 < room → queued (flush P s room).session < queued s) := by
  have hmoves : ∀ {s : ρ} {room : Nat}, live s → (Tls.flush P s room).failure = none →
      queued (Tls.flush P s room).session ≤ queued s := by
    intro s room hs hsmooth
    refine (flush_moves (R := fun a _ b => queued b ≤ queued a)
      (fun _ => Nat.le_refl _) (fun _ _ _ _ _ hab hbc => Nat.le_trans hbc hab) ?_ hs
      hsmooth).2.2
    intro s room s' bs hs hwanted hflush
    obtain ⟨hlive, hlength, hqueued, -⟩ := h.flushed s room s' bs hs hwanted hflush
    exact ⟨hlive, hlength, by omega⟩
  refine ⟨hmoves hs hsmooth, fun hwanted hroom => ?_⟩
  rcases hflush : P.flush s room with ⟨s', text | bs⟩
  · rw [flush_failed hwanted hflush] at hsmooth
    cases hsmooth
  · obtain ⟨hlive, hlength, hqueued, hsome⟩ := h.flushed s room s' bs hs hwanted hflush
    have hpos := List.length_pos_iff.mpr (hsome hroom)
    rw [flush_more hwanted hflush hlength (hsome hroom)] at hsmooth ⊢
    have hrest := hmoves hlive hsmooth
    show queued (Tls.flush P s' (room - bs.length)).session < queued s
    omega

/-- A wrap that finds output queues no more of it, and leaves less where there is room. -/
theorem Drains.wrapOk_progress (h : Drains P queued live) {s : State ρ} (hs : live s.session)
    {source : Bytes} {room : Nat} {a : Answer (State ρ)} {r : Report}
    (hok : WrapOk P s source room a r) (hwanted : P.wantsWrite s.session = true) :
    queued a.engine.session ≤ queued s.session ∧
      (0 < room → queued a.engine.session < queued s.session) := by
  cases hok with
  | idle unwanted => exact absurd hwanted unwanted
  | flushed wanted smooth =>
    obtain ⟨hle, hless⟩ := h.flush hs smooth
    exact ⟨hle, hless wanted⟩
  | wrote unwanted established taken smooth => exact absurd hwanted unwanted

end RecordLayer.Tls
