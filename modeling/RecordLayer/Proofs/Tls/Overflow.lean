import RecordLayer.Proofs.Tls.Polling
import RecordLayer.Proofs.Transfer.Ending

/-!
# Unwraps that overflow

An unwrap that overflows is followed by another one, which hands out the rest of the plaintext and
then, within the same call, goes on with the bytes behind the record. So a destination that is too
small costs more than retries: the transfer comes to what one with a large destination comes to, and
then a further transfer.

* `gather` is a transfer without a destination, and `ending_exchange` says that transfers come to
  it;
* `unwrap_behind` is an unwrap while plaintext waits, and `gather_waiting` what the retries come to;
* `overflow_goes_on` compares destinations of any size.
-/

namespace RecordLayer.Tls

open Transfer

variable {ρ : Type} {P : Provider ρ} {plaintext : ρ → Bytes} {emptied : ρ → ρ}

/-! ### Transfers without a destination -/

/-- The unwraps of a transfer, as long as they overflow, with nothing but the room of the
destination. -/
def gather (P : Provider ρ) : Nat → State ρ → Buffer → Bytes → Nat → Ending (State ρ)
  | 0, s, source, _, _ => ⟨s, source, .unfinished⟩
  | budget + 1, s, source, held, room =>
    let a := unwrap P s source.region room
    match a.report with
    | .error e => ⟨a.engine, source, .failed e⟩
    | .ok r =>
      let left := { source with position := source.position + r.consumed }
      if r.status = .overflow then
        gather P budget a.engine left (held ++ a.written) ((engine P).sessionSize a.engine)
      else
        ⟨a.engine, left, .done (r.status, held ++ a.written)⟩

theorem ending_exchange (P : Provider ρ) (budget : Nat) {t : Transfer (State ρ)}
    (ht : t.WellFormed) :
    ending (exchange (engine P) .unwrap budget t) =
      gather P budget t.engine t.source t.destination.held t.destination.remaining := by
  induction budget generalizing t with
  | zero => rfl
  | succ budget ih =>
    have hanswer : answer (engine P) .unwrap t =
        unwrap P t.engine t.source.region t.destination.remaining := by
      rw [← Buffer.length_region ht.destination]
      rfl
    have honest : Honest (answer (engine P) .unwrap t) t.source.region
        t.destination.region.length := honest_unwrap P _ _ _
    rw [exchange, gather, ← hanswer]
    cases hreport : (answer (engine P) .unwrap t).report with
    | error e =>
      obtain ⟨hfailed, hengine, hsource⟩ := attempt_of_error hreport
      rw [Outcome.andThen_failed hfailed]
      simp only [ending, hengine, hsource, Verdict.map]
    | ok r =>
      obtain ⟨hdone, hengine, hsource, hgains⟩ := attempt_of_ok ht honest hreport
      have hwf := wellFormed_attempt (engine P) .unwrap ht
      rw [Outcome.andThen_done hdone, ending_after]
      by_cases hoverflow : r.status = .overflow
      · have hsize := remaining_grown (engine P) hwf.destination
        have hheld := held_grow (engine P) hwf.destination
        simp only [if_pos hoverflow, ending_after]
        rw [ih (wellFormed_grow (engine P) hwf), hsize, hheld, hgains.held, ← hengine, ← hsource]
        rfl
      · simp only [if_neg hoverflow, ending, hengine, hsource, hgains.held, Verdict.map]

/-! ### Plaintext that waits -/

/-- The state after all plaintext was handed out. -/
def State.spent (emptied : ρ → ρ) (s : State ρ) : State ρ :=
  { s with session := emptied s.session, pending := 0 }

/-- What handing out some plaintext leaves. -/
structure Left (plaintext : ρ → Bytes) (emptied : ρ → ρ) (s : State ρ) (room : Nat)
    (left : State ρ) : Prop where
  counted : Counted plaintext left
  plaintext : plaintext left.session = (plaintext s.session).drop room
  spent : left.spent emptied = s.spent emptied

section

variable {s : State ρ} {room : Nat}

theorem HandsOut.deliver (h : HandsOut P plaintext emptied) (hs : Counted plaintext s)
    (room : Nat) :
    ∃ left, deliver P s room = (left, .ok ((plaintext s.session).take room)) ∧
      Left plaintext emptied s room left := by
  obtain ⟨left, hdeliver, hcounted, hleft, -⟩ := h.toReleases.deliver hs room
  obtain ⟨hdelivered, -⟩ := (h.toReleases.readsFront h.kept).deliver trivial hs hdeliver
  refine ⟨left, hdeliver, hcounted, hleft, ?_⟩
  simp only [State.spent, hdelivered.kept, hdelivered.peerClosed]

theorem spent_of_nothing (h : HandsOut P plaintext emptied) (hs : Counted plaintext s)
    (hnone : plaintext s.session = []) : s.spent emptied = s := by
  have hpending : s.pending = 0 := hs.trans (List.length_eq_zero_iff.mpr hnone)
  obtain ⟨session, pending, peerClosed⟩ := s
  cases hpending
  rw [State.spent, h.emptied session hnone]

/-- Plaintext that fits is handed out at once. -/
theorem HandsOut.deliver_all (h : HandsOut P plaintext emptied) (hs : Counted plaintext s)
    (hroom : (plaintext s.session).length ≤ room) :
    Tls.deliver P s room = (s.spent emptied, .ok (plaintext s.session)) := by
  obtain ⟨left, hdeliver, hleft⟩ := h.deliver hs room
  have hnone : plaintext left.session = [] := by
    rw [hleft.plaintext, List.drop_of_length_le hroom]
  rw [hdeliver, List.take_of_length_le hroom, ← hleft.spent, spent_of_nothing h hleft.counted hnone]

/-- Of plaintext that does not fit, some is left. -/
theorem HandsOut.deliver_some (h : HandsOut P plaintext emptied) (hs : Counted plaintext s)
    (hroom : room < (plaintext s.session).length) :
    ∃ left, Tls.deliver P s room = (left, .ok ((plaintext s.session).take room)) ∧
      0 < left.pending ∧ Left plaintext emptied s room left := by
  obtain ⟨left, hdeliver, hleft⟩ := h.deliver hs room
  have hpending : left.pending = (plaintext left.session).length := hleft.counted
  rw [hleft.plaintext, List.length_drop] at hpending
  exact ⟨left, hdeliver, by omega, hleft⟩

/-- An answer with bytes that were handed out before. -/
def behind (earlier : Bytes) (a : Answer (State ρ)) : Answer (State ρ) where
  engine := a.engine
  written := earlier ++ a.written
  report := a.report.map fun r => { r with produced := earlier.length + r.produced }

theorem openRecord_behind (P : Provider ρ) (s : State ρ) (record earlier : Bytes) (room : Nat) :
    openRecord P s record earlier room =
      behind earlier (openRecord P s record [] (room - earlier.length)) := by
  rw [openRecord, openRecord]
  rcases feed P s.session record with ⟨fed, e | _⟩
  · simp only [behind, List.append_nil, Except.map]
  · simp only
    rcases P.process fed with ⟨processed, e | progress⟩
    · simp only [behind, List.append_nil, Except.map]
    · simp only [List.length_nil, Nat.sub_zero]
      rcases deliver P ⟨processed, progress.plaintext, progress.peerClosed⟩
        (room - earlier.length) with ⟨left, e | later⟩
      · simp only [behind, List.append_nil, Except.map]
      · simp only [behind, List.nil_append, Nat.zero_add, Except.map]

/-- An unwrap that can hand out all plaintext goes on as if there had not been any. -/
theorem unwrap_behind (h : HandsOut P plaintext emptied) (hs : Counted plaintext s)
    (hroom : (plaintext s.session).length ≤ room) (source : Bytes) :
    unwrap P s source room = behind (plaintext s.session)
      (unwrap P (s.spent emptied) source (room - (plaintext s.session).length)) := by
  have hpending : (s.spent emptied).pending = 0 := rfl
  rw [unwrap, h.deliver_all hs hroom, unwrap, deliver_of_nothing P hpending]
  simp only [hpending, Nat.lt_irrefl, if_false]
  by_cases hclosed : (s.spent emptied).peerClosed = true
  · simp only [if_pos hclosed, behind, List.append_nil, List.length_nil, Nat.add_zero, Except.map]
  · simp only [if_neg hclosed]
    rcases Record.completeLength source with e | _ | length
    · simp only [behind, List.append_nil, Except.map]
    · simp only [behind, List.append_nil, List.length_nil, Nat.add_zero, Except.map]
    · exact openRecord_behind P _ _ _ _

/-- An unwrap that cannot only hands out plaintext. -/
theorem unwrap_short (h : HandsOut P plaintext emptied) (hs : Counted plaintext s)
    (hroom : room < (plaintext s.session).length) (source : Bytes) :
    ∃ left, unwrap P s source room =
        ⟨left, (plaintext s.session).take room, .ok ⟨.overflow, 0, room⟩⟩ ∧
      Left plaintext emptied s room left := by
  obtain ⟨left, hdeliver, hpending, hleft⟩ := h.deliver_some hs hroom
  refine ⟨left, ?_, hleft⟩
  have hlength : ((plaintext s.session).take room).length = room := by
    rw [List.length_take]
    omega
  simp only [unwrap, hdeliver, if_pos hpending, hlength]

theorem gather_behind {s' : State ρ} {source : Buffer} {earlier : Bytes} {room' : Nat}
    (h : unwrap P s source.region room = behind earlier (unwrap P s' source.region room'))
    (budget : Nat) (held : Bytes) :
    gather P (budget + 1) s source held room =
      gather P (budget + 1) s' source (held ++ earlier) room' := by
  rw [gather, gather, h]
  cases hreport : (unwrap P s' source.region room').report with
  | error e => simp only [behind, hreport, Except.map]
  | ok r => simp only [behind, hreport, Except.map, List.append_assoc]

theorem gather_retry {left : State ρ} {source : Buffer} {given : Bytes} {count produced : Nat}
    (h : unwrap P s source.region room = ⟨left, given, .ok ⟨.overflow, count, produced⟩⟩)
    (budget : Nat) (held : Bytes) :
    gather P (budget + 1) s source held room =
      gather P budget left { source with position := source.position + count } (held ++ given)
        ((engine P).sessionSize left) := by
  rw [gather, h]
  simp only [if_true]

/-- All plaintext that waits is handed out, in as many calls as it takes, and the last of them goes
on. By induction on what waits; a call without any room only leads to one with some. -/
theorem gather_waiting (h : HandsOut P plaintext emptied) (hs : Counted plaintext s)
    (source : Buffer) (held : Bytes) (room : Nat) :
    ∃ more room', ∀ budget,
      gather P (budget + 1 + more) s source held room =
        gather P (budget + 1) (s.spent emptied) source (held ++ plaintext s.session) room' := by
  induction hn : (plaintext s.session).length + (1 - room) using Nat.strongRecOn
    generalizing s held room with
  | ind n ih =>
    by_cases hroom : (plaintext s.session).length ≤ room
    · exact ⟨0, _, fun budget => gather_behind (unwrap_behind h hs hroom _) budget held⟩
    · obtain ⟨left, hunwrap, hleft⟩ := unwrap_short h hs (Nat.not_le.mp hroom) source.region
      have hsize : 0 < (engine P).sessionSize left :=
        Nat.lt_of_lt_of_le (by decide : 0 < Record.maxLength) (Nat.le_max_left _ _)
      have hless : (plaintext left.session).length + (1 - (engine P).sessionSize left) < n := by
        rw [hleft.plaintext, List.length_drop]
        omega
      obtain ⟨more, room', hrest⟩ := ih _ hless hleft.counted
        (held ++ (plaintext s.session).take room) ((engine P).sessionSize left) rfl
      refine ⟨more + 1, room', fun budget => ?_⟩
      calc gather P (budget + 1 + more + 1) s source held room
          = gather P (budget + 1 + more) left source
              (held ++ (plaintext s.session).take room) ((engine P).sessionSize left) :=
            gather_retry hunwrap _ held
        _ = gather P (budget + 1) (left.spent emptied) source
              (held ++ (plaintext s.session).take room ++ plaintext left.session) room' :=
            hrest budget
        _ = gather P (budget + 1) (s.spent emptied) source (held ++ plaintext s.session) room' := by
            rw [hleft.spent, hleft.plaintext, List.append_assoc, List.take_append_drop]

/-! ### The first record -/

/-- The end of an unwrap that has processed a record of so many bytes. -/
def handOver (P : Provider ρ) (s : State ρ) (count room : Nat) : Answer (State ρ) :=
  match deliver P s room with
  | (left, .error e) => ⟨left, [], .error e⟩
  | (left, .ok bs) => ⟨left, bs, .ok ⟨unwrapStatus left, count, bs.length⟩⟩

/-- An unwrap processes a record of so many bytes, whatever the room is. -/
structure Opens (P : Provider ρ) (plaintext : ρ → Bytes) (s : State ρ) (source : Buffer)
    (opened : State ρ) (count : Nat) : Prop where
  counted : Counted plaintext opened
  whole : Record.completeLength source.region = .ok (some count)
  unwrap : ∀ room, unwrap P s source.region room = handOver P opened count room

/-- An unwrap comes to the same whatever the room is, and takes and gives nothing. -/
structure Idles (P : Provider ρ) (s : State ρ) (source : Buffer) (left : State ρ)
    (report : Except EngineError Report) : Prop where
  unmoved : ∀ r, report = .ok r → r.consumed = 0 ∧ r.status ≠ .overflow
  unwrap : ∀ room, unwrap P s source.region room = ⟨left, [], report⟩

theorem Idles.of_error {source : Buffer} {left : State ρ} {e : EngineError}
    (hunwrap : ∀ room, Tls.unwrap P s source.region room = ⟨left, [], .error e⟩) :
    Idles P s source left (.error e) :=
  ⟨nofun, hunwrap⟩

theorem Idles.of_status {source : Buffer} {left : State ρ} {status : Status}
    (hother : status ≠ .overflow)
    (hunwrap : ∀ room, Tls.unwrap P s source.region room = ⟨left, [], .ok ⟨status, 0, 0⟩⟩) :
    Idles P s source left (.ok ⟨status, 0, 0⟩) := by
  refine ⟨fun r hr => ?_, hunwrap⟩
  cases hr
  exact ⟨rfl, hother⟩

theorem idles_of_closed (P : Provider ρ) (hs : s.pending = 0) (hclosed : s.peerClosed = true)
    (source : Buffer) : Idles P s source s (.ok ⟨.closed, 0, 0⟩) := by
  have hnone : ¬0 < s.pending := by omega
  refine .of_status (by decide) fun room => ?_
  simp only [unwrap, deliver_of_nothing P hs, if_neg hnone, if_pos hclosed, List.length_nil]

/-- Where no plaintext waits, the room only matters for what a record yields. -/
theorem idles_or_opens (h : HandsOut P plaintext emptied) (hs : s.pending = 0) (source : Buffer) :
    (∃ left report, Idles P s source left report) ∨
      ∃ opened count, Opens P plaintext s source opened count := by
  have hnone : ¬0 < s.pending := by omega
  by_cases hclosed : s.peerClosed = true
  · exact .inl ⟨s, _, idles_of_closed P hs hclosed source⟩
  · cases hwhole : Record.completeLength source.region with
    | error e =>
      refine .inl ⟨s, .error (.protocol e), .of_error fun room => ?_⟩
      simp only [unwrap, deliver_of_nothing P hs, if_neg hnone, if_neg hclosed, hwhole]
    | ok front =>
      cases front with
      | none =>
        refine .inl ⟨s, .ok ⟨.underflow, 0, 0⟩, .of_status (by decide) fun room => ?_⟩
        simp only [unwrap, deliver_of_nothing P hs, if_neg hnone, if_neg hclosed, hwhole,
          List.length_nil]
      | some length =>
        have hcall : ∀ room, unwrap P s source.region room =
            openRecord P s (source.region.take length) [] room := fun room => by
          simp only [unwrap, deliver_of_nothing P hs, if_neg hnone, if_neg hclosed, hwhole]
        simp only [openRecord] at hcall
        rcases hfed : feed P s.session (source.region.take length) with ⟨fed, e | _⟩
        · simp only [hfed] at hcall
          exact .inl ⟨_, _, .of_error hcall⟩
        · simp only [hfed] at hcall
          rcases hprocess : P.process fed with ⟨processed, e | progress⟩
          · simp only [hprocess] at hcall
            exact .inl ⟨_, _, .of_error hcall⟩
          · have hcount : (source.region.take length).length = length :=
              List.length_take_of_le (Record.declared?_of_completeLength hwhole).2
            refine .inr ⟨⟨processed, progress.plaintext, progress.peerClosed⟩, length,
              h.processed _ _ _ hprocess, hwhole, fun room => ?_⟩
            rw [hcall, handOver]
            simp only [hprocess, List.length_nil, Nat.sub_zero]
            rcases deliver P ⟨processed, progress.plaintext, progress.peerClosed⟩ room with
              ⟨left, e | later⟩
            · rfl
            · simp only [List.nil_append, Nat.zero_add, hcount]

theorem handOver_long (h : HandsOut P plaintext emptied) (hs : Counted plaintext s)
    (hroom : (plaintext s.session).length ≤ room) (count : Nat) :
    handOver P s count room = ⟨s.spent emptied, plaintext s.session,
      .ok ⟨unwrapStatus (s.spent emptied), count, (plaintext s.session).length⟩⟩ := by
  rw [handOver, h.deliver_all hs hroom]

theorem handOver_short (h : HandsOut P plaintext emptied) (hs : Counted plaintext s)
    (hroom : room < (plaintext s.session).length) (count : Nat) :
    ∃ left, handOver P s count room =
        ⟨left, (plaintext s.session).take room, .ok ⟨.overflow, count, room⟩⟩ ∧
      Left plaintext emptied s room left := by
  obtain ⟨left, hdeliver, hpending, hleft⟩ := h.deliver_some hs hroom
  have hlength : ((plaintext s.session).take room).length = room :=
    List.length_take_of_le (Nat.le_of_lt hroom)
  refine ⟨left, ?_, hleft⟩
  simp only [handOver, hdeliver, hlength, (unwrapStatus_eq_overflow left).mpr hpending]

/-- What a transfer comes to that has room for all that the first record yields. -/
theorem gather_opened (h : HandsOut P plaintext emptied) {source : Buffer}
    {opened : State ρ} {count : Nat} (hopens : Opens P plaintext s source opened count)
    (hroom : (plaintext opened.session).length ≤ room) (budget : Nat) (held : Bytes) :
    gather P (budget + 1) s source held room =
      ⟨opened.spent emptied, { source with position := source.position + count },
        .done (unwrapStatus (opened.spent emptied), held ++ plaintext opened.session)⟩ := by
  have hother : unwrapStatus (opened.spent emptied) ≠ .overflow := fun hoverflow =>
    absurd ((unwrapStatus_eq_overflow _).mp hoverflow) (Nat.lt_irrefl 0)
  rw [gather, hopens.unwrap, handOver_long h hopens.counted hroom]
  simp only [if_neg hother]

/-- A transfer that has not goes on behind the first record, once all is handed out. -/
theorem gather_overflown (h : HandsOut P plaintext emptied) {source : Buffer}
    {opened : State ρ} {count : Nat} (hopens : Opens P plaintext s source opened count)
    (hroom : room < (plaintext opened.session).length) (held : Bytes) :
    ∃ more room', ∀ budget,
      gather P (budget + 1 + more) s source held room =
        gather P (budget + 1) (opened.spent emptied)
          { source with position := source.position + count } (held ++ plaintext opened.session)
          room' := by
  obtain ⟨left, hhandOver, hleft⟩ := handOver_short h hopens.counted hroom count
  obtain ⟨more, room', hrest⟩ := gather_waiting h hleft.counted
    { source with position := source.position + count }
    (held ++ (plaintext opened.session).take room) ((engine P).sessionSize left)
  have hunwrap := (hopens.unwrap room).trans hhandOver
  rw [hleft.spent, hleft.plaintext, List.append_assoc, List.take_append_drop] at hrest
  exact ⟨more + 1, room', fun budget => (gather_retry hunwrap _ held).trans (hrest budget)⟩

/-- What a last call decides, with what the destination holds after it. -/
def verdictOf (held : Bytes) : Except EngineError Report → Verdict EngineError (Status × Bytes)
  | .error e => .failed e
  | .ok r => .done (r.status, held)

/-- A transfer without a record to open comes to the same whatever the room is. -/
theorem gather_idle {source : Buffer} {left : State ρ} {report : Except EngineError Report}
    (hidles : Idles P s source left report) (budget : Nat) (held : Bytes) (room : Nat) :
    gather P (budget + 1) s source held room = ⟨left, source, verdictOf held report⟩ := by
  rw [gather, hidles.unwrap]
  cases report with
  | error e => rfl
  | ok r =>
    obtain ⟨hconsumed, hother⟩ := hidles.unmoved r rfl
    simp only [if_neg hother, hconsumed, Nat.add_zero, List.append_nil, verdictOf]

theorem gather_closed (hpending : s.pending = 0) (hclosed : s.peerClosed = true) (budget : Nat)
    (source : Buffer) (held : Bytes) (room : Nat) :
    gather P (budget + 1) s source held room = ⟨s, source, .done (.closed, held)⟩ :=
  gather_idle (idles_of_closed P hpending hclosed source) budget held room

/-- Once the peer has closed, there is nothing to go on with. -/
theorem gather_overflown_closed (h : HandsOut P plaintext emptied) {source : Buffer}
    {opened : State ρ} {count : Nat} (hopens : Opens P plaintext s source opened count)
    (hroom : room < (plaintext opened.session).length)
    (hstatus : unwrapStatus (opened.spent emptied) = .closed) (held : Bytes) :
    ∃ more, ∀ budget,
      gather P (budget + 1 + more) s source held room =
        ⟨opened.spent emptied, { source with position := source.position + count },
          .done (.closed, held ++ plaintext opened.session)⟩ := by
  obtain ⟨more, room', hrest⟩ := gather_overflown h hopens hroom held
  have hclosed := peerClosed_of_unwrapStatus (.inr hstatus)
  exact ⟨more, fun budget => (hrest budget).trans (gather_closed rfl hclosed _ _ _ _)⟩

/-- One call is only enough if it can hand out everything. -/
theorem room_of_finished (h : HandsOut P plaintext emptied) {source : Buffer}
    {opened : State ρ} {count : Nat} (hopens : Opens P plaintext s source opened count)
    {held : Bytes} (hfinished : (gather P 1 s source held room).verdict ≠ .unfinished) :
    (plaintext opened.session).length ≤ room := by
  by_contra hshort
  obtain ⟨left, hhandOver, -⟩ := handOver_short h hopens.counted (Nat.not_le.mp hshort) count
  rw [gather_retry ((hopens.unwrap room).trans hhandOver)] at hfinished
  exact hfinished rfl

/-- The bytes behind a whole record are still a source. -/
theorem wellFormed_behind {source : Buffer} (hsource : source.WellFormed) {count : Nat}
    (hwhole : Record.completeLength source.region = .ok (some count)) :
    ({ source with position := source.position + count } : Buffer).WellFormed := by
  have hcount := (Record.declared?_of_completeLength hwhole).2
  have hlimit := hsource.1
  rw [Buffer.length_region hsource, Buffer.remaining] at hcount
  exact ⟨by show source.position + count ≤ source.limit; omega, hsource.2⟩

/-! ### Destinations of any size -/

/-- What unwrapping a source into a destination comes to. -/
def unwrapInto (P : Provider ρ) (budget : Nat) (s : State ρ) (source destination : Buffer) :
    Ending (State ρ) :=
  ending (run (engine P) .unwrap budget ⟨s, source, destination⟩)

theorem unwrapInto_eq (P : Provider ρ) (budget : Nat) (s : State ρ) {source destination : Buffer}
    (hsource : source.WellFormed) (hdestination : destination.WellFormed) :
    unwrapInto P budget s source destination =
      gather P budget s source destination.held destination.remaining := by
  rw [unwrapInto, ending_run (taskless_engine P), ending_exchange P budget ⟨hsource, hdestination⟩]

theorem unwrapInto_blank (P : Provider ρ) (budget : Nat) (s : State ρ) {source blank : Buffer}
    (hsource : source.WellFormed) (hblank : blank.Blank) :
    unwrapInto P budget s source blank = gather P budget s source [] blank.remaining := by
  rw [unwrapInto_eq P budget s hsource hblank.wellFormed, Buffer.held_eq_nil hblank.position]

theorem unwrapInto_idle {source blank : Buffer} {left : State ρ}
    {report : Except EngineError Report} (hsource : source.WellFormed) (hblank : blank.Blank)
    (hidles : Idles P s source left report) (budget : Nat) :
    unwrapInto P (budget + 1) s source blank = ⟨left, source, verdictOf [] report⟩ := by
  rw [unwrapInto_blank P _ s hsource hblank, gather_idle hidles]

theorem unwrapInto_opened (h : HandsOut P plaintext emptied) {source blank : Buffer}
    {opened : State ρ} {count : Nat} (hsource : source.WellFormed) (hblank : blank.Blank)
    (hopens : Opens P plaintext s source opened count)
    (hroom : (plaintext opened.session).length ≤ blank.remaining) (budget : Nat) :
    unwrapInto P (budget + 1) s source blank =
      ⟨opened.spent emptied, { source with position := source.position + count },
        .done (unwrapStatus (opened.spent emptied), plaintext opened.session)⟩ := by
  rw [unwrapInto_blank P _ s hsource hblank, gather_opened h hopens hroom, List.nil_append]

/-- With a destination that takes all that the first record yields, at most that record is consumed.
Any other one comes to the same if it has as much room, or if the peer has closed. Otherwise the
retries hand out the same bytes, and then the transfer goes on behind the record as a further one
would. -/
theorem overflow_goes_on (h : HandsOut P plaintext emptied) (hs : s.pending = 0) {source : Buffer}
    (hsource : source.WellFormed) :
    (∃ enough, ∀ large : Buffer, large.Blank → enough ≤ large.remaining →
      (unwrapInto P 1 s source large).verdict ≠ .unfinished) ∧
    ∀ large small : Buffer, large.Blank → small.Blank →
      let first := unwrapInto P 1 s source large
      first.verdict ≠ .unfinished →
      (∃ count, first.source = { source with position := source.position + count } ∧
        (count = 0 ∨ Record.completeLength source.region = .ok (some count))) ∧
      ((∀ status given, first.verdict = .done (status, given) →
          given.length ≤ small.remaining ∨ status = .closed) →
        ∃ enough, ∀ budget, enough ≤ budget → unwrapInto P budget s source small = first) ∧
      ∀ status given, first.verdict = .done (status, given) →
        small.remaining < given.length → status ≠ .closed →
          ∃ rest more, rest.WellFormed ∧ rest.held = given ∧ ∀ budget,
            unwrapInto P (budget + 1 + more) s source small =
              unwrapInto P (budget + 1) first.engine first.source rest := by
  rcases idles_or_opens h hs source with ⟨left, report, hidles⟩ | ⟨opened, count, hopens⟩
  · have hsame : ∀ budget (blank : Buffer), blank.Blank →
        unwrapInto P (budget + 1) s source blank = ⟨left, source, verdictOf [] report⟩ :=
      fun budget _ hblank => unwrapInto_idle hsource hblank hidles budget
    refine ⟨⟨0, fun large hlarge _ => ?_⟩, ?_⟩
    · rw [hsame 0 large hlarge]
      cases report <;> nofun
    · intro large small hlarge hsmall first _
      have hfirst : first = ⟨left, source, verdictOf [] report⟩ := hsame 0 large hlarge
      rw [hfirst]
      refine ⟨⟨0, rfl, .inl rfl⟩, fun _ => ⟨1, fun budget hbudget => ?_⟩, ?_⟩
      · obtain ⟨budget, rfl⟩ := Nat.exists_eq_add_of_le' hbudget
        exact hsame budget small hsmall
      · intro status given hdone hshort
        cases report with
        | error e => cases hdone
        | ok r =>
          cases hdone
          exact absurd hshort (Nat.not_lt_zero _)
  · refine ⟨⟨(plaintext opened.session).length, fun large hlarge hroom => ?_⟩, ?_⟩
    · rw [unwrapInto_opened h hsource hlarge hopens hroom 0]
      nofun
    · intro large small hlarge hsmall first hfinished
      have hroom : (plaintext opened.session).length ≤ large.remaining := by
        apply room_of_finished h hopens
        rw [← unwrapInto_blank P 1 s hsource hlarge]
        exact hfinished
      have hfirst : first = _ := unwrapInto_opened h hsource hlarge hopens hroom 0
      rw [hfirst]
      refine ⟨⟨count, rfl, .inr hopens.whole⟩, fun hsuffices => ?_, ?_⟩
      · by_cases hfits : (plaintext opened.session).length ≤ small.remaining
        · refine ⟨1, fun budget hbudget => ?_⟩
          obtain ⟨budget, rfl⟩ := Nat.exists_eq_add_of_le' hbudget
          exact unwrapInto_opened h hsource hsmall hopens hfits budget
        · have hclosed := (hsuffices _ _ rfl).resolve_left hfits
          obtain ⟨more, hrest⟩ :=
            gather_overflown_closed h hopens (Nat.not_le.mp hfits) hclosed []
          refine ⟨1 + more, fun budget hbudget => ?_⟩
          obtain ⟨budget, rfl⟩ := Nat.exists_eq_add_of_le' hbudget
          rw [← Nat.add_assoc, unwrapInto_blank P _ s hsource hsmall, hrest, hclosed,
            List.nil_append]
      · intro status given hdone hshort _
        cases hdone
        obtain ⟨more, room', hrest⟩ := gather_overflown h hopens hshort []
        have hleft := wellFormed_behind hsource hopens.whole
        have hholding := Buffer.wellFormed_holding (plaintext opened.session) room'
        refine ⟨.holding (plaintext opened.session) room', more, hholding,
          Buffer.held_holding _ _, fun budget => ?_⟩
        rw [unwrapInto_blank P _ s hsource hsmall, hrest, List.nil_append,
          unwrapInto_eq P _ _ hleft hholding, Buffer.held_holding, Buffer.remaining_holding]

end

/-! ### A request that overflows -/

open Connection

/-- The server of the meeting behind the handshake, with a request that it has not opened. -/
def requestedServer : Connection (State Symbolic.Server) :=
  (answeredServer.step (engine Symbolic.Server.provider) 9 .read).connection

/-- The request, and one more record of one byte. -/
def requests : Bytes :=
  requestedServer.inbound.held ++
    (requestedServer.engine.session.receiving.map fun ch => ch.next.protect 23 [33]).getD []

/-- What the server comes to that unwraps a source into a new destination. -/
def requested (source : Bytes) (capacity budget : Nat) : Ending (State Symbolic.Server) :=
  unwrapInto Symbolic.Server.provider budget requestedServer.engine (.ofBytes source)
    (.withCapacity capacity)

/-- The request alone and both records, with a destination that takes the request and with one that
takes nothing. The run of both parties is evaluated here once. -/
theorem requested_values :
    let request := requestedServer.inbound.held
    requestedServer.engine.pending = 0 ∧ requestedServer.engine.session.plaintext = [] ∧
    ((requested request 2 1).verdict = .done (.ok, [104, 105]) ∧
      (requested request 0 9).verdict = .done (.underflow, [104, 105])) ∧
    ((requested requests 2 1).verdict = .done (.ok, [104, 105]) ∧
      (requested requests 2 1).source.position = 24) ∧
    (requested requests 0 9).verdict = .done (.ok, [104, 105, 33]) ∧
      (requested requests 0 9).source.position = 47 := by
  decide +kernel

/-- The request is handed out, and then it goes on with the record behind it. -/
theorem overflow_goes_on_requests :
    let first := requested requests 2 1
    (requestedServer.engine.pending = 0 ∧ (Buffer.ofBytes requests).WellFormed ∧
      first.verdict = .done (.ok, [104, 105])) ∧
    (∃ count, first.source = { Buffer.ofBytes requests with position := count } ∧
      (count = 0 ∨ Record.completeLength requests = .ok (some count))) ∧
    ∃ rest more, rest.WellFormed ∧ rest.held = [104, 105] ∧ ∀ budget,
      requested requests 0 (budget + 1 + more) =
        unwrapInto Symbolic.Server.provider (budget + 1) first.engine first.source rest := by
  intro first
  obtain ⟨hpending, -, -, ⟨hverdict, -⟩, -⟩ := requested_values
  have hwf := Buffer.wellFormed_ofBytes requests
  have hall := (overflow_goes_on Symbolic.Server.handsOut hpending hwf).2 (.withCapacity 2)
    (.withCapacity 0) (Buffer.blank_withCapacity 2) (Buffer.blank_withCapacity 0)
  have hfinished : first.verdict ≠ .unfinished := by
    rw [hverdict]
    nofun
  obtain ⟨⟨count, hsource, hcount⟩, -, hrest⟩ := hall hfinished
  rw [Buffer.region_ofBytes] at hcount
  refine ⟨⟨hpending, hwf, hverdict⟩, ⟨count, ?_, hcount⟩, hrest _ _ hverdict (by decide) nofun⟩
  have hstart : (Buffer.ofBytes requests).position + count = count := Nat.zero_add count
  rw [hstart] at hsource
  exact hsource

/-- With a destination that takes nothing, the status is another one, and so are the bytes taken and
given if there is a second record. -/
theorem overflow_noticed :
    requestedServer.engine.pending = 0 ∧ requestedServer.engine.session.plaintext = [] ∧
    (Buffer.withCapacity 2).Blank ∧ (Buffer.withCapacity 0).Blank ∧
    (let request := requestedServer.inbound.held
     (requested request 2 1).verdict = .done (.ok, [104, 105]) ∧
      (requested request 0 9).verdict = .done (.underflow, [104, 105])) ∧
    ((requested requests 2 1).verdict = .done (.ok, [104, 105]) ∧
      (requested requests 2 1).source.position = 24) ∧
    (requested requests 0 9).verdict = .done (.ok, [104, 105, 33]) ∧
      (requested requests 0 9).source.position = 47 := by
  obtain ⟨hpending, hplaintext, hrequest, hlarge, hsmall⟩ := requested_values
  exact ⟨hpending, hplaintext, Buffer.blank_withCapacity 2, Buffer.blank_withCapacity 0, hrequest,
    hlarge, hsmall⟩

end RecordLayer.Tls
