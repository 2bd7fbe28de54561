import Mathlib.Data.List.Induction
import Mathlib.Logic.ExistsUnique
import Mathlib.Tactic.MkIffOfInductiveProp
import RecordLayer.Proofs.Record

/-!
# What the front of a stream decides

An engine looks at the front of what has come and finds a whole record, or a fault of the header, or
that it has to wait. What it finds is final, whatever comes behind, and it does not wait for more
once as many bytes are there as the longest record has.

* `Stands` and `Faulty` say what there is to find, byte by byte; `completeLength_eq_some_iff` and
  `completeLength_eq_error_iff` say that this is what engines find;
* `Cut` takes a stream apart into records that engines accept and a rest with none in front;
* `Received` does the same with a stream that comes in pieces.
-/

namespace RecordLayer.Record

/-! ### What there is to find -/

/-- A record of this length stands whole at the front. -/
@[mk_iff]
structure Stands (bs : Bytes) (length : Nat) : Prop where
  header : 5 ≤ bs.length
  type : 20 ≤ bs[0].toNat ∧ bs[0].toNat ≤ 24
  body : bs[3].toNat * 256 + bs[4].toNat ≤ 18432
  total : length = 5 + (bs[3].toNat * 256 + bs[4].toNat)
  whole : length ≤ bs.length

instance (bs : Bytes) (length : Nat) : Decidable (Stands bs length) :=
  decidable_of_iff _ (stands_iff bs length).symm

/-- The header at the front has this fault. The content type is looked at before the length. -/
inductive Faulty (bs : Bytes) : ProtocolError → Prop where
  | type (header : 5 ≤ bs.length) (foreign : ¬(20 ≤ bs[0].toNat ∧ bs[0].toNat ≤ 24)) :
    Faulty bs (.invalidMessage .invalidContentType)
  | body (header : 5 ≤ bs.length) (type : 20 ≤ bs[0].toNat ∧ bs[0].toNat ≤ 24)
    (long : 18432 < bs[3].toNat * 256 + bs[4].toNat) : Faulty bs .oversizedRecord

theorem isNone_ofCode?_iff {code : UInt8} :
    (ContentType.ofCode? code).isNone = true ↔ ¬(20 ≤ code.toNat ∧ code.toNat ≤ 24) := by
  simp only [ContentType.ofCode?, Option.isNone_iff_eq_none, List.find?_eq_none,
    List.forall_mem_cons, ContentType.code, beq_iff_eq, ← UInt8.toNat_inj, UInt8.reduceToNat,
    List.not_mem_nil, false_implies, implies_true, and_true]
  omega

theorem completeLength_of_header {bs : Bytes} (header : 5 ≤ bs.length) :
    completeLength bs =
      if 20 ≤ bs[0].toNat ∧ bs[0].toNat ≤ 24 then
        if 18432 < bs[3].toNat * 256 + bs[4].toNat then .error .oversizedRecord
        else .ok (if 5 + (bs[3].toNat * 256 + bs[4].toNat) ≤ bs.length then
          some (5 + (bs[3].toNat * 256 + bs[4].toNat)) else none)
      else .error (.invalidMessage .invalidContentType) := by
  match bs, header with
  | type :: _ :: _ :: high :: low :: body, _ =>
    simp only [completeLength, isNone_ofCode?_iff, ite_not]
    rfl

theorem completeLength_of_short {bs : Bytes} (short : bs.length < 5) :
    completeLength bs = .ok none := by
  unfold completeLength
  split
  · simp only [List.length_cons] at short
    omega
  · rfl

section

variable {bs bs' : Bytes} {length : Nat} {fault : ProtocolError}

theorem completeLength_eq_some_iff : completeLength bs = .ok (some length) ↔ Stands bs length := by
  by_cases header : 5 ≤ bs.length
  · rw [completeLength_of_header header]
    constructor
    · intro h
      split at h
      · next type =>
        split at h
        · cases h
        · next body =>
          rw [Except.ok.injEq, Option.ite_none_right_eq_some, Option.some.injEq] at h
          exact ⟨header, type, Nat.not_lt.mp body, h.2.symm, h.2 ▸ h.1⟩
      · cases h
    · rintro ⟨_, type, body, rfl, whole⟩
      rw [if_pos type, if_neg (Nat.not_lt.mpr body), if_pos whole]
  · rw [completeLength_of_short (Nat.not_le.mp header)]
    exact ⟨nofun, fun h => absurd h.header header⟩

theorem completeLength_eq_error_iff : completeLength bs = .error fault ↔ Faulty bs fault := by
  by_cases header : 5 ≤ bs.length
  · rw [completeLength_of_header header]
    constructor
    · intro h
      split at h
      · next type =>
        split at h
        · next long =>
          cases h
          exact .body header type long
        · cases h
      · next foreign =>
        cases h
        exact .type header foreign
    · intro h
      cases h with
      | type _ foreign => rw [if_neg foreign]
      | body _ type long => rw [if_pos type, if_pos long]
  · rw [completeLength_of_short (Nat.not_le.mp header)]
    refine ⟨nofun, fun h => absurd ?_ header⟩
    cases h <;> assumption

theorem completeLength_eq_none_iff :
    completeLength bs = .ok none ↔ (∀ length, ¬Stands bs length) ∧ ∀ fault, ¬Faulty bs fault := by
  simp only [← completeLength_eq_some_iff, ← completeLength_eq_error_iff]
  rcases completeLength bs with fault | _ | length <;> simp

/-! ### What more bytes change -/

theorem Stands.bounds (h : Stands bs length) :
    5 ≤ length ∧ length ≤ maxLength ∧ length ≤ bs.length := by
  obtain ⟨_, _, body, rfl, whole⟩ := h
  exact ⟨Nat.le_add_right _ _, Nat.add_le_add_left body 5, whole⟩

theorem same_header (header : 5 ≤ bs.length) (hsame : bs'.take 5 = bs.take 5) :
    ∃ _ : 5 ≤ bs'.length, bs'[0] = bs[0] ∧ bs'[3] = bs[3] ∧ bs'[4] = bs[4] := by
  have hlength := congrArg List.length hsame
  rw [List.length_take, List.length_take] at hlength
  have header' : 5 ≤ bs'.length := by omega
  have hbyte : ∀ i (_ : i < 5), bs'[i] = bs[i] := by
    intro i hi
    have h : bs'[i]? = bs[i]? := by
      rw [← List.getElem?_take_of_lt hi, hsame, List.getElem?_take_of_lt hi]
    rwa [List.getElem?_eq_getElem, List.getElem?_eq_getElem, Option.some.injEq] at h
  exact ⟨header', hbyte 0 (by decide), hbyte 3 (by decide), hbyte 4 (by decide)⟩

/-- Nothing matters but the header and whether the bytes of the record are there. -/
theorem Stands.of_header (h : Stands bs length) (hsame : bs'.take 5 = bs.take 5)
    (hwhole : length ≤ bs'.length) : Stands bs' length := by
  obtain ⟨header, type, body, total, _⟩ := h
  obtain ⟨header', htype, hhigh, hlow⟩ := same_header header hsame
  rw [← htype] at type
  rw [← hhigh, ← hlow] at body total
  exact ⟨header', type, body, total, hwhole⟩

theorem Stands.append (h : Stands bs length) (more : Bytes) : Stands (bs ++ more) length := by
  refine h.of_header (List.take_append_of_le_length h.header) ?_
  rw [List.length_append]
  exact Nat.le_add_right_of_le h.whole

theorem Stands.take (h : Stands bs length) : Stands (bs.take length) length := by
  refine h.of_header ?_ (Nat.le_of_eq (List.length_take_of_le h.whole).symm)
  rw [List.take_take, Nat.min_eq_left h.bounds.1]

theorem Faulty.of_header (h : Faulty bs fault) (hsame : bs'.take 5 = bs.take 5) :
    Faulty bs' fault := by
  cases h with
  | type header foreign =>
    obtain ⟨header', htype, -, -⟩ := same_header header hsame
    rw [← htype] at foreign
    exact .type header' foreign
  | body header type long =>
    obtain ⟨header', htype, hhigh, hlow⟩ := same_header header hsame
    rw [← htype] at type
    rw [← hhigh, ← hlow] at long
    exact .body header' type long

theorem Faulty.header (h : Faulty bs fault) : 5 ≤ bs.length := by
  cases h <;> assumption

theorem completeLength_append (h : completeLength bs ≠ .ok none) (more : Bytes) :
    completeLength (bs ++ more) = completeLength bs := by
  rcases hfound : completeLength bs with fault | _ | length
  · rw [completeLength_eq_error_iff] at hfound ⊢
    exact hfound.of_header (List.take_append_of_le_length hfound.header)
  · exact absurd hfound h
  · rw [completeLength_eq_some_iff] at hfound ⊢
    exact hfound.append more

/-- As many bytes as the longest record has are enough. -/
theorem completeLength_ne_none (h : maxLength ≤ bs.length) : completeLength bs ≠ .ok none := by
  intro hnone
  obtain ⟨hstands, hfaulty⟩ := completeLength_eq_none_iff.mp hnone
  have header : 5 ≤ bs.length := Nat.le_trans (by decide) h
  by_cases type : 20 ≤ bs[0].toNat ∧ bs[0].toNat ≤ 24
  · by_cases body : bs[3].toNat * 256 + bs[4].toNat ≤ 18432
    · exact hstands _ ⟨header, type, body, rfl, Nat.le_trans (Nat.add_le_add_left body 5) h⟩
    · exact hfaulty _ (.body header type (Nat.not_le.mp body))
  · exact hfaulty _ (.type header type)

end

/-! ### Cutting a stream -/

/-- Records that engines accept, and a rest that does not start with one. -/
structure Cut (bs : Bytes) (records : List Bytes) (rest : Bytes) : Prop where
  accepted : ∀ record ∈ records, completeLength record = .ok (some record.length)
  joined : records.flatten ++ rest = bs
  exhausted : ¬Whole rest

/-- What the pieces of a stream have come to: each time all records are taken off what is there. -/
inductive Received : List Bytes → List Bytes → Bytes → Prop where
  | nothing : Received [] [] []
  | piece {pieces records new : List Bytes} {kept piece rest : Bytes}
    (before : Received pieces records kept) (cut : Cut (kept ++ piece) new rest) :
    Received (pieces ++ [piece]) (records ++ new) rest

section

variable {bs rest rest' more : Bytes} {records records' pieces : List Bytes}

/-- The first record of a cut is what engines find at the front. -/
theorem Cut.first {record : Bytes} (h : Cut bs (record :: records) rest) :
    completeLength bs = .ok (some record.length) ∧ Cut (bs.drop record.length) records rest := by
  have hrecord := h.accepted record List.mem_cons_self
  have hbs : bs = record ++ (records.flatten ++ rest) := by
    rw [← h.joined, List.flatten_cons, List.append_assoc]
  constructor
  · rw [hbs, completeLength_append (by rw [hrecord]; nofun), hrecord]
  · refine ⟨fun r hr => h.accepted r (List.mem_cons_of_mem _ hr), ?_, h.exhausted⟩
    rw [hbs, List.drop_left]

theorem Cut.unique (h : Cut bs records rest) (h' : Cut bs records' rest') :
    records = records' ∧ rest = rest' := by
  induction records generalizing bs records' with
  | nil =>
    have hrest : rest = bs := h.joined
    cases records' with
    | nil => exact ⟨rfl, hrest.trans h'.joined.symm⟩
    | cons record records' => exact absurd ⟨_, hrest ▸ h'.first.1⟩ h.exhausted
  | cons record records ih =>
    cases records' with
    | nil =>
      have hrest' : rest' = bs := h'.joined
      exact absurd ⟨_, hrest' ▸ h.first.1⟩ h'.exhausted
    | cons record' records' =>
      -- both first records are the one that engines find, so they are as long and the same
      obtain ⟨hfront, hbehind⟩ := h.first
      obtain ⟨hfront', hbehind'⟩ := h'.first
      rw [hfront, Except.ok.injEq, Option.some.injEq] at hfront'
      rw [← hfront'] at hbehind'
      obtain ⟨rfl, hrest⟩ := ih hbehind hbehind'
      have hjoined := h.joined.trans h'.joined.symm
      rw [List.flatten_cons, List.flatten_cons, List.append_assoc, List.append_assoc] at hjoined
      exact ⟨by rw [(List.append_inj hjoined hfront').1], hrest⟩

theorem exists_cut (bs : Bytes) : ∃ records rest, Cut bs records rest := by
  by_cases h : Whole bs
  · obtain ⟨length, hwhole⟩ := h
    have hstands := completeLength_eq_some_iff.mp hwhole
    obtain ⟨hpositive, -, hlength⟩ := hstands.bounds
    have hshorter : (bs.drop length).length < bs.length := by
      rw [List.length_drop]
      omega
    obtain ⟨records, rest, hcut⟩ := exists_cut (bs.drop length)
    refine ⟨bs.take length :: records, rest, ?_, ?_, hcut.exhausted⟩
    · intro record hrecord
      rcases List.mem_cons.mp hrecord with rfl | hrecord
      · rw [List.length_take_of_le hlength]
        exact completeLength_eq_some_iff.mpr hstands.take
      · exact hcut.accepted record hrecord
    · rw [List.flatten_cons, List.append_assoc, hcut.joined, List.take_append_drop]
  · exact ⟨[], bs, nofun, rfl, h⟩
termination_by bs.length

/-- Cutting may stop anywhere and go on later. -/
theorem Cut.append (h : Cut bs records rest) (h' : Cut (rest ++ more) records' rest') :
    Cut (bs ++ more) (records ++ records') rest' := by
  refine ⟨?_, ?_, h'.exhausted⟩
  · intro record hrecord
    exact (List.mem_append.mp hrecord).elim (h.accepted record) (h'.accepted record)
  · rw [List.flatten_append, List.append_assoc, h'.joined, ← List.append_assoc, h.joined]

theorem Received.cut (h : Received pieces records rest) : Cut pieces.flatten records rest := by
  induction h with
  | nothing => exact ⟨nofun, rfl, by decide⟩
  | piece _ hcut ih =>
    rw [List.flatten_append, List.flatten_singleton]
    exact ih.append hcut

theorem exists_received (pieces : List Bytes) : ∃ records rest, Received pieces records rest := by
  induction pieces using List.reverseRecOn with
  | nil => exact ⟨[], [], .nothing⟩
  | append_singleton pieces piece ih =>
    obtain ⟨records, kept, hbefore⟩ := ih
    obtain ⟨new, rest, hcut⟩ := exists_cut (kept ++ piece)
    exact ⟨records ++ new, rest, hbefore.piece hcut⟩

theorem received_iff : Received pieces records rest ↔ Cut pieces.flatten records rest := by
  refine ⟨Received.cut, fun h => ?_⟩
  obtain ⟨_, _, hreceived⟩ := exists_received pieces
  obtain ⟨rfl, rfl⟩ := h.unique hreceived.cut
  exact hreceived

/-- The rest of a cut is short or rejected. -/
theorem Cut.rest_bounded (h : Cut bs records rest) :
    (completeLength rest = .ok none ∧ rest.length < maxLength) ∨
      ∃ fault, completeLength (rest.take 5) = .error fault ∧
        ∀ more, completeLength (rest ++ more) = .error fault ∧
          Cut (bs ++ more) records (rest ++ more) := by
  rcases hfound : completeLength rest with fault | _ | length
  · refine .inr ⟨fault, ?_, fun more => ?_⟩
    · rw [completeLength_eq_error_iff] at hfound ⊢
      exact hfound.of_header (by rw [List.take_take, Nat.min_self])
    · have hfound' : completeLength (rest ++ more) = .error fault := by
        rw [completeLength_append (by rw [hfound]; nofun), hfound]
      refine ⟨hfound', h.accepted, ?_, ?_⟩
      · rw [← List.append_assoc, h.joined]
      · rintro ⟨length, hwhole⟩
        rw [hfound'] at hwhole
        cases hwhole
  · exact .inl ⟨rfl, Nat.lt_of_not_le fun hlong => completeLength_ne_none hlong hfound⟩
  · exact absurd ⟨length, hfound⟩ h.exhausted

end

/-- Engines find each whole record and each fault of a header, and what they find is final. They wait
only while fewer bytes are there than the longest record has, and there are bytes that end the wait.
So a stream is cut into records in one way, in whatever pieces it comes, and what is kept of it is
shorter than the longest record or rejected for its header. -/
theorem framing_decides (bs : Bytes) :
    (completeLength bs ≠ .ok none → ∀ more, completeLength (bs ++ more) = completeLength bs) ∧
      (∀ length, completeLength bs = .ok (some length) ↔ Stands bs length) ∧
      (∀ length, completeLength bs = .ok (some length) →
        5 ≤ length ∧ length ≤ maxLength ∧ length ≤ bs.length) ∧
      (∀ fault, completeLength bs = .error fault ↔ Faulty bs fault) ∧
      (completeLength bs = .ok none → bs.length < maxLength ∧
        ∃ more, (∃ length, completeLength (bs ++ more) = .ok (some length)) ∨
          ∃ fault, completeLength (bs ++ more) = .error fault) ∧
      (∃! cut : List Bytes × Bytes, Cut bs cut.1 cut.2) ∧
      (∀ pieces, pieces.flatten = bs → ∀ records rest,
        Received pieces records rest ↔ Cut bs records rest) ∧
      ∀ records rest, Cut bs records rest →
        (completeLength rest = .ok none ∧ rest.length < maxLength) ∨
          ∃ fault, completeLength (rest.take 5) = .error fault ∧
            ∀ more, completeLength (rest ++ more) = .error fault ∧
              Cut (bs ++ more) records (rest ++ more) := by
  refine ⟨completeLength_append, fun _ => completeLength_eq_some_iff, ?_,
    fun _ => completeLength_eq_error_iff, ?_, ?_, ?_, fun _ _ => Cut.rest_bounded⟩
  · intro length h
    exact (completeLength_eq_some_iff.mp h).bounds
  · intro hnone
    -- any bytes will do if they are enough
    refine ⟨Nat.lt_of_not_le fun hlong => completeLength_ne_none hlong hnone,
      List.replicate maxLength 0, ?_⟩
    have hlong : maxLength ≤ (bs ++ List.replicate maxLength 0).length := by
      rw [List.length_append, List.length_replicate]
      exact Nat.le_add_left _ _
    have hdecided := completeLength_ne_none hlong
    rcases hfound : completeLength (bs ++ List.replicate maxLength 0) with fault | _ | length
    · exact .inr ⟨fault, rfl⟩
    · exact absurd hfound hdecided
    · exact .inl ⟨length, rfl⟩
  · obtain ⟨records, rest, h⟩ := exists_cut bs
    refine ⟨(records, rest), h, fun cut hcut => ?_⟩
    obtain ⟨hrecords, hrest⟩ := hcut.unique h
    exact Prod.ext hrecords hrest
  · rintro pieces rfl records rest
    exact received_iff

/-- A record with more behind it; a header that only the byte 0 completes; and two records and a
request of another protocol in three pieces. -/
theorem framing_decides_pieces :
    (completeLength [23, 3, 3, 0, 1, 7, 22] = .ok (some 6) ∧ 6 ≤ maxLength ∧
        ∀ more, completeLength ([23, 3, 3, 0, 1, 7, 22] ++ more) = .ok (some 6)) ∧
      (completeLength [23, 3, 3, 72] = .ok none ∧ ∃ more,
        (∃ length, completeLength ([23, 3, 3, 72] ++ more) = .ok (some length)) ∨
          ∃ fault, completeLength ([23, 3, 3, 72] ++ more) = .error fault) ∧
      Received [[23, 3], [3, 0, 1, 7, 22, 3, 3], [0, 0, 71, 69, 84, 32, 47]]
        [[23, 3, 3, 0, 1, 7], [22, 3, 3, 0, 0]] [71, 69, 84, 32, 47] ∧
      ∃ fault, ∀ more, completeLength ([71, 69, 84, 32, 47] ++ more) = .error fault := by
  have hfound : completeLength [23, 3, 3, 0, 1, 7, 22] = .ok (some 6) :=
    completeLength_eq_some_iff.mpr (by decide)
  have hnone : completeLength [23, 3, 3, 72] = .ok none := rfl
  have hcut : Cut [23, 3, 3, 0, 1, 7, 22, 3, 3, 0, 0, 71, 69, 84, 32, 47]
      [[23, 3, 3, 0, 1, 7], [22, 3, 3, 0, 0]] [71, 69, 84, 32, 47] := by
    refine ⟨?_, rfl, by decide⟩
    simp only [completeLength_eq_some_iff]
    decide
  obtain ⟨hfinal, -, hbounds, -⟩ := framing_decides [23, 3, 3, 0, 1, 7, 22]
  obtain ⟨-, -, -, -, hwaits, -⟩ := framing_decides [23, 3, 3, 72]
  obtain ⟨-, -, -, -, -, -, hpieces, hrest⟩ :=
    framing_decides [23, 3, 3, 0, 1, 7, 22, 3, 3, 0, 0, 71, 69, 84, 32, 47]
  refine ⟨⟨hfound, (hbounds 6 hfound).2.1, ?_⟩, ⟨hnone, (hwaits hnone).2⟩,
    (hpieces _ rfl _ _).mpr hcut, ?_⟩
  · intro more
    rw [hfinal (by rw [hfound]; nofun), hfound]
  · rcases hrest _ _ hcut with ⟨hundecided, -⟩ | ⟨fault, -, hrejected⟩
    · cases hundecided
    · exact ⟨fault, fun more => (hrejected more).1⟩

end RecordLayer.Record
