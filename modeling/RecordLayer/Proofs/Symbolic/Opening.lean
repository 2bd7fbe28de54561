import RecordLayer.Proofs.Record
import RecordLayer.Proofs.Symbolic.Handling

/-!
# One record at a time

A party is fed one whole record after the other. It handles each when it comes, except for those
that it cannot open and passes over: they stay in front of the input until another one is handled.

* `Party.Unopenable` are the records that are passed over;
* `refuse_backlog` says where passing over them stops;
* `handleRecords_backlog`: of such records and one more, either all stay or none does.
-/

namespace RecordLayer.Symbolic.Party

variable {δ : Type} {p q : Party δ}

theorem unprotect?_eq_none {h : Record.Header} {body : Bytes} :
    p.unprotect? h body = none ↔ ∃ ch, p.receiving = some ch ∧ p.mayBeOpen h.type body = false ∧
      ch.open? h.type h.major h.minor body = none := by
  rw [unprotect?]
  cases p.receiving with
  | none => simp
  | some ch => cases p.mayBeOpen h.type body <;> simp

/-- Opening a record changes nothing but the protection. -/
theorem unprotect?_eq_some {h : Record.Header} {body : Bytes} {c : Content}
    (hopen : p.unprotect? h body = some (q, c)) :
    ∃ receiving opened, q = { p with receiving, opened } ∧
      c.recordLength = Record.headerLength + h.length := by
  rw [unprotect?] at hopen
  cases hreceiving : p.receiving with
  | none =>
    rw [hreceiving] at hopen
    cases hopen
    exact ⟨p.receiving, p.opened, rfl, rfl⟩
  | some ch =>
    simp only [hreceiving] at hopen
    split at hopen
    · cases hopen
      exact ⟨p.receiving, p.opened, rfl, rfl⟩
    · rw [Option.map_eq_some_iff] at hopen
      obtain ⟨⟨type, plain⟩, -, hopened⟩ := hopen
      cases hopened
      exact ⟨_, _, rfl, rfl⟩

/-- A whole record that is well-formed but not protected as the party expects. -/
def Unopenable (p : Party δ) (record : Bytes) : Prop :=
  ∃ h body, Record.front? record = some (h, body) ∧ body.length = h.length ∧ h.fault? = none ∧
    p.unprotect? h body = none

/-- Whether a record can be opened depends on the protection, and on what may come in the open. -/
theorem Unopenable.congr {record : Bytes} (h : p.Unopenable record)
    (hreceiving : q.receiving = p.receiving) (hjoined : q.joined = p.joined)
    (hversion : q.version = p.version) (hopened : q.opened = p.opened) : q.Unopenable record := by
  simp only [Unopenable, unprotect?_eq_none, mayBeOpen] at h ⊢
  rw [hreceiving, hjoined, hversion, hopened]
  exact h

/-! ### Passing over records -/

theorem refuse?_eq_some {input : Bytes} {length : Nat} (h : p.refuse? input = some (q, length)) :
    (∃ left, q = { p with earlyLeft := left }) ∧ ∃ header rest,
      Record.front? input = some (header, rest) ∧ length = Record.headerLength + header.length ∧
        header.fault? = none ∧ (rest.take header.length).length = header.length ∧
        p.unprotect? header (rest.take header.length) = none := by
  simp only [refuse?, Option.bind_eq_bind, Option.bind_eq_some_iff] at h
  obtain ⟨⟨header, rest⟩, hfront, p', hpassed, h⟩ := h
  obtain ⟨left, rfl⟩ := passOver?_eq hpassed
  split at h
  · next hrefused =>
    cases h
    refine ⟨⟨left, rfl⟩, header, rest, hfront, rfl, ?_, hrefused.2.1, ?_⟩
    · exact Option.isNone_iff_eq_none.mp hrefused.1
    · have hnone := unprotect?_eq_none.mp (Option.isNone_iff_eq_none.mp hrefused.2.2)
      exact unprotect?_eq_none.mpr hnone
  · cases h

/-- A record that is passed over is one that cannot be opened. -/
theorem unopenable_of_refuse? {record rest : Bytes} {length : Nat}
    (hrecord : Record.IsRecord record) (h : p.refuse? (record ++ rest) = some (q, length)) :
    (∃ left, q = { p with earlyLeft := left }) ∧ length = record.length ∧ Unopenable p record := by
  obtain ⟨header, body, hfront, hbody, hlength⟩ := Record.front?_of_isRecord hrecord
  obtain ⟨hq, header', rest', hfront', hcount, hfault, -, hnone⟩ := refuse?_eq_some h
  rw [Record.front?_append hfront, Option.some.injEq, Prod.mk.injEq] at hfront'
  obtain ⟨rfl, rfl⟩ := hfront'
  rw [← hbody, List.take_left] at hnone
  exact ⟨hq, hcount.trans hlength.symm, header, body, hfront, hbody, hfault, hnone⟩

theorem isRecord_of_unopenable {record : Bytes} (h : Unopenable p record) :
    Record.IsRecord record := by
  obtain ⟨header, body, hfront, hbody, -⟩ := h
  unfold Record.front? at hfront
  split at hfront
  · cases hfront
    rw [Record.IsRecord, Record.declared?]
    simp only at hbody
    simp only [List.length_cons, hbody, Record.headerLength]
    congr 1
    omega
  · cases hfront

theorem refuse_nil (records : Nat) : p.refuse records [] = (p, 0) := by
  cases records <;> rfl

/-- Where passing over stops: behind everything, before the last record, or before a record that
cannot be opened. -/
theorem refuse_backlog {backlog : List Bytes} (hbacklog : ∀ r ∈ backlog, Unopenable p r)
    {record : Bytes} (hrecord : Record.IsRecord record) (records : Nat) {skipped : Nat}
    (h : p.refuse records (backlog.flatten ++ record) = (q, skipped)) :
    (∃ left, q = { p with earlyLeft := left }) ∧
      (skipped = (backlog.flatten ++ record).length ∧ Unopenable p record ∨
        skipped = backlog.flatten.length ∨
        ∃ next rest,
          (backlog.flatten ++ record).drop skipped = next ++ rest ∧ Unopenable p next) := by
  induction backlog generalizing p records skipped with
  | nil =>
    cases records with
    | zero =>
      cases h
      exact ⟨⟨_, rfl⟩, .inr (.inl rfl)⟩
    | succ records =>
      rw [List.flatten_nil, List.nil_append, refuse] at h
      split at h
      · next p' length hrefused =>
        have hrefused' : p.refuse? (record ++ []) = some (p', length) := by
          rw [List.append_nil]
          exact hrefused
        obtain ⟨hleft, hlength, hunopenable⟩ := unopenable_of_refuse? hrecord hrefused'
        rw [hlength, List.drop_length, refuse_nil] at h
        cases h
        exact ⟨hleft, .inl ⟨rfl, hunopenable⟩⟩
      · cases h
        exact ⟨⟨_, rfl⟩, .inr (.inl rfl)⟩
  | cons first backlog ih =>
    have hfirst := hbacklog first List.mem_cons_self
    have hstuck : ∃ next rest, (List.flatten (first :: backlog) ++ record).drop 0 = next ++ rest ∧
        Unopenable p next := by
      rw [List.flatten_cons, List.append_assoc]
      exact ⟨first, _, rfl, hfirst⟩
    cases records with
    | zero =>
      cases h
      exact ⟨⟨_, rfl⟩, .inr (.inr hstuck)⟩
    | succ records =>
      rw [refuse] at h
      split at h
      · next p' length hrefused =>
        rw [List.flatten_cons, List.append_assoc] at hrefused h ⊢
        obtain ⟨⟨left, rfl⟩, rfl, -⟩ :=
          unopenable_of_refuse? (isRecord_of_unopenable hfirst) hrefused
        rw [List.drop_left] at h
        rcases hothers : refuse records { p with earlyLeft := left } (backlog.flatten ++ record) with
          ⟨q', others⟩
        rw [hothers] at h
        cases h
        have hrest : ∀ r ∈ backlog, Unopenable { p with earlyLeft := left } r := by
          intro r hr
          exact (hbacklog r (List.mem_cons_of_mem _ hr)).congr rfl rfl rfl rfl
        obtain ⟨⟨left', hq⟩, hstops⟩ := ih hrest records hothers
        refine ⟨⟨left', hq⟩, ?_⟩
        rw [← List.drop_drop, List.drop_left]
        rcases hstops with ⟨rfl, hunopenable⟩ | rfl | ⟨next, rest, hdrop, hunopenable⟩
        · exact .inl ⟨List.length_append.symm, hunopenable.congr rfl rfl rfl rfl⟩
        · exact .inr (.inl List.length_append.symm)
        · exact .inr (.inr ⟨next, rest, hdrop, hunopenable.congr rfl rfl rfl rfl⟩)
      · cases h
        exact ⟨⟨_, rfl⟩, .inr (.inr hstuck)⟩

/-! ### Handling a record -/

variable {handlers : Handlers δ}

theorem handleNext_of_incoming (handlers : Handlers δ) {skipped : Nat}
    (h : p.incoming.drop skipped = []) : handleNext handlers p skipped = none := by
  rw [handleNext, h]
  rfl

/-- A record that cannot be opened, and may not be passed over either, ends the session. -/
theorem handleNext_unopenable (handlers : Handlers δ) {skipped : Nat} {record rest : Bytes}
    (hunopenable : Unopenable p record) (h : p.incoming.drop skipped = record ++ rest) :
    ∃ q fault, handleNext handlers p skipped = some (q, some fault) := by
  obtain ⟨header, body, hfront, hbody, hfault, hnone⟩ := hunopenable
  refine ⟨p, ⟨.decryptFailed, some .badRecordMac⟩, ?_⟩
  simp only [handleNext, h, Record.front?_append hfront, Option.bind_some, hfault, ← hbody,
    List.take_left, Nat.lt_irrefl, if_false, handleRecord, hnone]

theorem handleNext_ne_none {skipped : Nat} {record : Bytes} (hrecord : Record.IsRecord record)
    (h : p.incoming.drop skipped = record) : handleNext handlers p skipped ≠ none := by
  obtain ⟨header, body, hfront, hbody, -⟩ := Record.front?_of_isRecord hrecord
  simp only [handleNext, h, hfront, Option.bind_some, ← hbody, List.take_length, Nat.lt_irrefl,
    if_false]
  split
  · exact Option.some_ne_none _
  · exact Option.some_ne_none _

theorem countEmpty?_eq {body : Bytes} (h : p.countEmpty? body = some q) :
    ∃ emptyRecords, q = { p with emptyRecords } := by
  rw [countEmpty?] at h
  split at h
  · cases h
    exact ⟨_, rfl⟩
  · split at h
    · cases h
    · cases h
      exact ⟨_, rfl⟩

/-- A record that is handled leaves the input, and those before it with it. -/
theorem handleNext_settles (hsteady : Steady handlers) {skipped : Nat} {record : Bytes}
    (hrecord : Record.IsRecord record) (hincoming : p.incoming.drop skipped = record)
    (h : handleNext handlers p skipped = some (q, none)) :
    Settles { p with incoming := [] } q := by
  obtain ⟨header, body, hfront, hbody, hlength⟩ := Record.front?_of_isRecord hrecord
  simp only [handleNext, hincoming, hfront, Option.bind_some] at h
  split at h
  · cases h
  · rw [← hbody, List.take_length, if_neg (Nat.lt_irrefl _), Option.some.injEq, handleRecord] at h
    split at h
    · cases h
    · next p' c hopened =>
      obtain ⟨receiving, opened, rfl, hcount⟩ := unprotect?_eq_some hopened
      split at h
      · cases h
      · split at h
        · cases h
        · next p'' hempty =>
          obtain ⟨emptyRecords, rfl⟩ := countEmpty?_eq hempty
          have hnone : p.incoming.drop (skipped + c.recordLength) = [] := by
            rw [hcount, ← hlength, ← List.drop_drop, hincoming, List.drop_length]
          have hsettles := handleContent_settles hsteady h
          simp only [hnone] at hsettles
          exact ⟨hsettles.failure, hsettles.incoming, hsettles.orderly, hsettles.quiet⟩

theorem handleRecords_nil (records : Nat) (h : p.incoming = []) :
    handleRecords handlers records p = p := by
  cases records with
  | zero => rfl
  | succ records =>
    have hnone : p.incoming.drop 0 = [] := h
    rw [handleRecords, h, refuse_nil]
    simp only [handleNext_of_incoming handlers hnone]

/-- Of records that cannot be opened and one more, either all stay in the input, because the last
one cannot be opened either, or it is handled and they all go. -/
theorem handleRecords_backlog (hsteady : Steady handlers) {backlog : List Bytes}
    (hbacklog : ∀ r ∈ backlog, Unopenable p r) {record : Bytes} (hrecord : Record.IsRecord record)
    (hincoming : p.incoming = backlog.flatten ++ record) {records : Nat} (hrecords : 0 < records)
    (hdone : (handleRecords handlers records p).failure = none) :
    (Unopenable p record ∧ ∃ left, handleRecords handlers records p = { p with earlyLeft := left }) ∨
      (handleRecords handlers records p).incoming = [] ∧
        Settles { p with incoming := [] } (handleRecords handlers records p) := by
  obtain ⟨records, rfl⟩ := Nat.exists_eq_succ_of_ne_zero (Nat.ne_of_gt hrecords)
  rw [Nat.succ_eq_add_one, handleRecords] at hdone ⊢
  rcases hrefuse : refuse records p p.incoming with ⟨p', skipped⟩
  rw [hrefuse] at hdone
  rw [hincoming] at hrefuse
  obtain ⟨⟨left, rfl⟩, hstops⟩ := refuse_backlog hbacklog hrecord records hrefuse
  simp only at hdone ⊢
  rcases hstops with ⟨rfl, hunopenable⟩ | rfl | ⟨next, rest, hdrop, hunopenable⟩
  · left
    have hnone : ({ p with earlyLeft := left } : Party δ).incoming.drop
        (backlog.flatten ++ record).length = [] := by
      show p.incoming.drop _ = []
      rw [hincoming, List.drop_length]
    rw [handleNext_of_incoming handlers hnone]
    exact ⟨hunopenable, left, rfl⟩
  · right
    have hnext : ({ p with earlyLeft := left } : Party δ).incoming.drop backlog.flatten.length =
        record := by
      show p.incoming.drop _ = record
      rw [hincoming, List.drop_left]
    split at hdone
    · next hnone => exact absurd hnone (handleNext_ne_none hrecord hnext)
    · cases hdone
    · next q hhandled =>
      have hsettles := handleNext_settles hsteady hrecord hnext hhandled
      have hleft := hsettles.incoming rfl
      simp only [handleRecords_nil _ hleft]
      exact ⟨hleft, hsettles.failure, hsettles.incoming, hsettles.orderly, hsettles.quiet⟩
  · have hstuck : ({ p with earlyLeft := left } : Party δ).incoming.drop skipped = next ++ rest := by
      show p.incoming.drop _ = _
      rw [hincoming, hdrop]
    have hunopenable' : Unopenable { p with earlyLeft := left } next :=
      hunopenable.congr rfl rfl rfl rfl
    obtain ⟨q, fault, hfault⟩ := handleNext_unopenable handlers hunopenable' hstuck
    rw [hfault] at hdone
    cases hdone

end RecordLayer.Symbolic.Party
