import Mathlib.Data.List.Basic
import RecordLayer.Proofs.Series
import RecordLayer.Proofs.Tls.Journal
import RecordLayer.Proofs.Tls.Overflow

/-!
# Plaintext is handed out once

In a series of unwraps on an engine itself, every decrypted byte is handed out once and in order,
whatever the regions are. A record is only fed when no plaintext waits. What is handed out is also
reported, unless the call then finds a header that it does not accept: such a call has taken out of
the session all that waited, and reports nothing of it.

* `Delivering` is the account of a series, and `Delivering.serve` what one more call does to it;
* `delivering_series` is the account after any series whose calls succeed or have their header
  rejected, and `account_series` says it without the journal;
* `delivered_once` is about series that succeed, and `rejected_unreported` about the others;
* `rejected_takes_plaintext` is a call that fails and loses a byte.
-/

namespace RecordLayer.Tls

variable {ρ : Type} {P : Provider ρ} {plaintext : ρ → Bytes}

/-! ### The account of a series -/

/-- The source begins with a header that is not accepted. -/
def Rejected (source : Bytes) : Prop :=
  ∃ fault, Record.completeLength source = .error fault

instance (source : Bytes) : Decidable (Rejected source) :=
  match h : Record.completeLength source with
  | .ok _ => .isFalse fun ⟨_, hfault⟩ => by cases h.symm.trans hfault
  | .error fault => .isTrue ⟨fault, h⟩

/-- The account of a series: what was handed out and what still waits is what waited at the start and
what was yielded since. -/
structure Delivering (plaintext : ρ → Bytes) (start given : Bytes) (records : List Bytes)
    (s : State (Journaled ρ)) : Prop where
  counted : Counted (fun m : Journaled ρ => plaintext m.session) s
  account : given ++ plaintext s.session.session =
    start ++ s.session.notes.opened.flatMap Opened.plaintext
  records : s.session.notes.opened.map Opened.record = records
  nothingWaited : ∀ o ∈ s.session.notes.opened, o.waiting = []
  waiting : s.session.notes.waiting = none
  begun : s.session.notes.begun = []

section

variable {start given : Bytes} {records : List Bytes} {s : State (Journaled ρ)}

theorem delivering_journal {s : State ρ} (hs : Counted plaintext s) :
    Delivering plaintext (plaintext s.session) [] [] s.journal where
  counted := hs
  account := (List.append_nil _).symm
  records := rfl
  nothingWaited := nofun
  waiting := rfl
  begun := rfl

/-- Handing out moves plaintext from what waits to what was given. -/
theorem Delivering.deliver (hs : Delivering plaintext start given records s)
    (h : Releases P plaintext) {left : State (Journaled ρ)} {room : Nat} {bs : Bytes}
    (hdeliver : deliver (P.journaled plaintext) s room = (left, .ok bs)) :
    Delivering plaintext start (given ++ bs) records left := by
  have hreads : ReadsFront P plaintext (fun _ => ()) fun _ => True :=
    h.readsFront fun _ _ _ _ => rfl
  obtain ⟨hdelivered, -⟩ :=
    (hreads.annotated (.journal plaintext)).deliver trivial hs.counted hdeliver
  have hnotes : left.session.notes = s.session.notes := congrArg Prod.snd hdelivered.kept
  refine ⟨hdelivered.counted, ?_, ?_, ?_, ?_, ?_⟩
  · rw [hnotes, ← hs.account, hdelivered.plaintext, List.append_assoc]
  · rw [hnotes]
    exact hs.records
  · rw [hnotes]
    exact hs.nothingWaited
  · rw [hnotes]
    exact hs.waiting
  · rw [hnotes]
    exact hs.begun

/-- A record that is fed when nothing waits adds what it yields to what waits. -/
theorem Delivering.opens (hs : Delivering plaintext start given records s)
    (h : Releases P plaintext) (hpending : s.pending = 0) {record : Bytes} (hrecord : record ≠ [])
    {fed processed : Journaled ρ} {progress : Progress}
    (htaken : feed (P.journaled plaintext) s.session record = (fed, .ok ()))
    (hhandled : (P.journaled plaintext).process fed = (processed, .ok progress)) :
    Delivering plaintext start given (records ++ [record])
      ⟨processed, progress.plaintext, progress.peerClosed⟩ := by
  have hnothing : plaintext s.session.session = [] := hs.counted.pending_eq_zero_iff.mp hpending
  have hentry : processed.notes =
      { opened := s.session.notes.opened ++ [⟨[], record, plaintext processed.session⟩] } := by
    rw [(annotated_process hhandled).2, feed_journaled htaken, if_neg hrecord, hs.waiting, hs.begun,
      Option.getD_none, hnothing]
    rfl
  refine ⟨(h.annotated (.journal plaintext)).processed _ _ _ hhandled, ?_, ?_, ?_, ?_, ?_⟩ <;>
    rw [hentry]
  · -- Nothing waits, so what was given is already all that was yielded before.
    have haccount := hs.account
    rw [hnothing, List.append_nil] at haccount
    rw [List.flatMap_append, List.flatMap_singleton, ← List.append_assoc, ← haccount]
  · rw [List.map_append, hs.records]
    rfl
  · rw [List.forall_mem_append, List.forall_mem_singleton]
    exact ⟨hs.nothingWaited, rfl⟩

/-- The records among the bytes that calls report to have taken. -/
def recordsOf {σ : Type} (cs : List (Served σ)) : List Bytes :=
  (cs.map Served.consumed).filter (· ≠ [])

theorem recordsOf_concat {σ : Type} (cs : List (Served σ)) (c : Served σ) :
    recordsOf (cs ++ [c]) = recordsOf cs ++ [c.consumed].filter (· ≠ []) := by
  simp only [recordsOf, List.map_append, List.map_singleton, List.filter_append]

/-- An unwrap that succeeds. -/
theorem Delivering.unwrapped (hs : Delivering plaintext start given records s)
    (h : Releases P plaintext) {source : Bytes} {room : Nat} {a : Answer (State (Journaled ρ))}
    {r : Report} (hok : UnwrapOk (P.journaled plaintext) s source room a r) :
    Delivering plaintext start (given ++ a.written)
      (records ++ [source.take r.consumed].filter (· ≠ [])) a.engine := by
  cases hok with
  | handedOut delivered stops =>
    have hnone : [source.take 0].filter (· ≠ []) = [] := by simp
    rw [hnone, List.append_nil]
    exact hs.deliver h delivered
  | @opened s₁ s₂ fed processed earlier later length progress delivered pending peer whole taken
      handled delivered' =>
    obtain ⟨hlength, hpos, -⟩ := length_opened whole
    have hrecord : source.take length ≠ [] := by
      rw [← List.length_pos_iff, hlength]
      exact hpos
    have hsome : [source.take length].filter (· ≠ []) = [source.take length] := by simp [hrecord]
    have hearlier := hs.deliver h delivered
    have hopened := hearlier.opens h pending hrecord taken handled
    rw [hlength, hsome, ← List.append_assoc]
    exact hopened.deliver h delivered'

/-- One more unwrap, which succeeds or has its header rejected. -/
theorem Delivering.serve (hs : Delivering plaintext start given records s)
    (h : Releases P plaintext) (o : Offer) :
    let c := (engine (P.journaled plaintext)).serve .unwrap s o
    c.Succeeds ∨ Rejected c.offer.source →
      Delivering plaintext start (given ++ c.answer.written)
        (records ++ [c.consumed].filter (· ≠ [])) c.left := by
  intro c hends
  by_cases hok : c.Succeeds
  · obtain ⟨r, hreport⟩ := hok
    rw [Served.consumed_of_ok hreport]
    exact hs.unwrapped h (unwrap_ok hreport)
  · obtain ⟨fault, hrejected⟩ := hends.resolve_left hok
    obtain ⟨left, hdeliver⟩ :=
      (h.annotated (.journal plaintext)).deliver_eq hs.counted o.destination.length
    have hanswer : c.answer = _ := unwrap_rejected hrejected hdeliver
    have hconsumed : c.consumed = [] := by
      cases hreport : c.answer.report with
      | ok r => exact absurd ⟨r, hreport⟩ hok
      | error e => exact Served.consumed_of_error hreport
    have hnone : [c.consumed].filter (· ≠ []) = [] := by simp [hconsumed]
    rw [hnone, List.append_nil, Served.left, hanswer]
    exact hs.deliver h hdeliver

end

/-! ### Series -/

/-- The journal that a series of unwraps leaves. -/
def journal (P : Provider ρ) (plaintext : ρ → Bytes) (s : State ρ) (offers : List Offer) :
    List Opened :=
  ((engine (P.journaled plaintext)).afterSeries .unwrap s.journal offers).session.notes.opened

section

variable {s : State ρ} {offers : List Offer}

/-- Every call succeeds, or is offered a header that is not accepted. -/
def Orderly {σ : Type} (cs : List (Served σ)) : Prop :=
  ∀ c ∈ cs, c.Succeeds ∨ Rejected c.offer.source

instance {σ : Type} (cs : List (Served σ)) : Decidable (Orderly cs) :=
  inferInstanceAs (Decidable (∀ c ∈ cs, c.Succeeds ∨ Rejected c.offer.source))

/-- By induction on the series. -/
theorem delivering_series (h : Releases P plaintext) (hs : Counted plaintext s)
    (offers : List Offer) :
    let cs := (engine (P.journaled plaintext)).series .unwrap s.journal offers
    Orderly cs →
      Delivering plaintext (plaintext s.session) (cs.flatMap fun c => c.answer.written)
        (recordsOf cs) ((engine (P.journaled plaintext)).afterSeries .unwrap s.journal offers) ∧
      ∀ c ∈ cs, Counted (fun m => plaintext m.session) c.found ∧
        Counted (fun m => plaintext m.session) c.left := by
  refine Engine.series_invariant (engine (P.journaled plaintext)) .unwrap s.journal
    (motive := fun cs left => Orderly cs →
      Delivering plaintext (plaintext s.session) (cs.flatMap fun c => c.answer.written)
        (recordsOf cs) left ∧
      ∀ c ∈ cs, Counted (fun m => plaintext m.session) c.found ∧
        Counted (fun m => plaintext m.session) c.left) ?_ ?_ offers
  · intro _
    exact ⟨delivering_journal hs, List.forall_mem_nil _⟩
  · intro cs found o ih hends
    rw [Orderly, List.forall_mem_append, List.forall_mem_singleton] at hends
    obtain ⟨hfound, hcounted⟩ := ih hends.1
    have hleft := hfound.serve h o hends.2
    rw [List.flatMap_append, List.flatMap_singleton, recordsOf_concat, List.forall_mem_append,
      List.forall_mem_singleton]
    exact ⟨hleft, hcounted, hfound.counted, hleft.counted⟩

/-- The account of a series on the engine without a journal. -/
theorem account_series (h : Releases P plaintext) (hs : Counted plaintext s) (offers : List Offer)
    (hends : Orderly ((engine P).series .unwrap s offers)) :
    let cs := (engine P).series .unwrap s offers
    let left := (engine P).afterSeries .unwrap s offers
    let opened := journal P plaintext s offers
    (cs.flatMap (fun c => c.answer.written) ++ plaintext left.session =
        plaintext s.session ++ opened.flatMap Opened.plaintext) ∧
      opened.map Opened.record = recordsOf cs ∧ (∀ o ∈ opened, o.waiting = []) ∧
      ∀ c ∈ cs, Counted plaintext c.found ∧ Counted plaintext c.left := by
  intro cs left opened
  have hsimulates := plain_simulates P (.journal plaintext)
  have hcs : cs = ((engine (P.journaled plaintext)).series .unwrap s.journal offers).map
      (Served.map State.plain) :=
    Engine.series_simulates hsimulates .unwrap s.journal offers
  have hleft : left =
      ((engine (P.journaled plaintext)).afterSeries .unwrap s.journal offers).plain :=
    Engine.afterSeries_simulates hsimulates .unwrap s.journal offers
  have hends' : Orderly cs := hends
  rw [hcs, Orderly, List.forall_mem_map] at hends'
  obtain ⟨hdelivering, hcounted⟩ := delivering_series h hs offers hends'
  refine ⟨?_, ?_, hdelivering.nothingWaited, ?_⟩
  · rw [hcs, hleft, List.flatMap_map]
    exact hdelivering.account
  · rw [hcs, recordsOf, List.map_map]
    exact hdelivering.records
  · rw [hcs, List.forall_mem_map]
    exact hcounted

/-- What a call of a series that succeeds reports to have given is all that it has handed out. -/
theorem produced_of_unwrap {c : Served (State ρ)} (hc : c ∈ (engine P).series .unwrap s offers)
    {r : Report} (hreport : c.answer.report = .ok r) : c.produced = c.answer.written := by
  rw [Engine.mem_series hc] at hreport ⊢
  obtain ⟨-, hproduced, hroom⟩ := honest_unwrap P _ _ _ _ hreport
  exact Served.produced_of_ok hreport hproduced hroom

/-- In a series of unwraps that succeed on a fresh engine, the bytes produced and the plaintext that
still waits are the plaintexts of the records consumed, in order. The count of what waits is right
before and after every call, and whenever a record began to be fed nothing waited. -/
theorem delivered_once (h : Releases P plaintext) {start : ρ} (hstart : plaintext start = [])
    (offers : List Offer)
    (hok : ∀ c ∈ (engine P).series .unwrap ⟨start, 0, false⟩ offers, c.Succeeds) :
    let cs := (engine P).series .unwrap ⟨start, 0, false⟩ offers
    let left := (engine P).afterSeries .unwrap ⟨start, 0, false⟩ offers
    let opened := journal P plaintext ⟨start, 0, false⟩ offers
    (cs.flatMap Served.produced ++ plaintext left.session = opened.flatMap Opened.plaintext ∧
      opened.map Opened.record = recordsOf cs) ∧
    (∀ c ∈ cs, c.found.pending = (plaintext c.found.session).length ∧
      c.left.pending = (plaintext c.left.session).length) ∧
    ∀ o ∈ opened, o.waiting = [] := by
  intro cs left opened
  have hcounted : Counted plaintext (⟨start, 0, false⟩ : State ρ) := by
    show 0 = (plaintext start).length
    rw [hstart]
    rfl
  obtain ⟨haccount, hrecords, hwaiting, hcounts⟩ :=
    account_series h hcounted offers fun c hc => .inl (hok c hc)
  have hproduced : cs.flatMap Served.produced = cs.flatMap fun c => c.answer.written := by
    refine List.flatMap_congr fun c hc => ?_
    obtain ⟨r, hreport⟩ := hok c hc
    exact produced_of_unwrap hc hreport
  refine ⟨⟨?_, hrecords⟩, hcounts, hwaiting⟩
  rw [hproduced, haccount, hstart, List.nil_append]

end

/-! ### A meeting, one byte at a time -/

section

open Connection

/-- The records of the client of the meeting, with a destination of one byte for each. -/
def meetingRecords : List Offer :=
  (Record.frames (injected meeting)).map fun record => ⟨record, [0]⟩

/-- The first bytes of a request in another protocol. -/
def foreignHeader : Bytes := [71, 69, 84, 32, 47]

/-- Three series that begin with the records: the request waits in part behind them, is read to its
end, and is lost to the header of another protocol. The meeting is evaluated here once. -/
theorem meeting_values :
    let P := Symbolic.Server.provider
    let E := engine P
    let fresh : State Symbolic.Server := ⟨meetingServer, 0, false⟩
    let waiting := E.afterSeries .unwrap fresh meetingRecords
    let reading := meetingRecords ++ [⟨foreignHeader, []⟩, ⟨[], [0, 0, 0]⟩]
    let losing := meetingRecords ++ [⟨foreignHeader, []⟩, ⟨foreignHeader, [0, 0, 0]⟩, ⟨[], [0, 0, 0]⟩]
    let lost := unwrap P waiting foreignHeader 3
    (waiting.pending = 1 ∧ waiting.session.plaintext = [105]) ∧
    ((∀ c ∈ E.series .unwrap fresh reading, c.Succeeds) ∧
      (E.series .unwrap fresh reading).flatMap Served.produced = [104, 105]) ∧
    (Orderly (E.series .unwrap fresh losing) ∧
      (E.series .unwrap fresh losing).flatMap Served.produced = [104]) ∧
    lost.report = .error (.protocol (.invalidMessage .invalidContentType)) ∧
      lost.engine.pending = 0 ∧ lost.engine.session.plaintext = [] ∧
      (unwrap P lost.engine [] 3).report = .ok ⟨.underflow, 0, 0⟩ := by
  decide +kernel

/-- The two bytes of the request come one at a time, and only then is the stream at its end. -/
theorem delivered_once_meeting :
    let P := Symbolic.Server.provider
    let fresh : State Symbolic.Server := ⟨meetingServer, 0, false⟩
    let offers := meetingRecords ++ [⟨foreignHeader, []⟩, ⟨[], [0, 0, 0]⟩]
    let cs := (engine P).series .unwrap fresh offers
    let left := (engine P).afterSeries .unwrap fresh offers
    let opened := journal P Symbolic.Party.plaintext fresh offers
    (Releases P Symbolic.Party.plaintext ∧ meetingServer.plaintext = [] ∧ ∀ c ∈ cs, c.Succeeds) ∧
    cs.flatMap Served.produced = [104, 105] ∧
    ((cs.flatMap Served.produced ++ left.session.plaintext = opened.flatMap Opened.plaintext ∧
        opened.map Opened.record = recordsOf cs) ∧
      (∀ c ∈ cs, c.found.pending = c.found.session.plaintext.length ∧
        c.left.pending = c.left.session.plaintext.length) ∧
      ∀ o ∈ opened, o.waiting = []) := by
  obtain ⟨-, ⟨hok, hproduced⟩, -⟩ := meeting_values
  have hreleases := Symbolic.Server.handsOut.toReleases
  exact ⟨⟨hreleases, rfl, hok⟩, hproduced, delivered_once hreleases rfl _ hok⟩

end

/-! ### Headers that are not accepted -/

section

variable {s : State ρ} {offers : List Offer}

/-- A header that is not accepted makes an unwrap fail if all that waits fits and the peer has not
closed. By then all of it has been handed out. -/
theorem fails_of_rejected (h : Releases P plaintext) (hs : Counted plaintext s) {source : Bytes}
    {fault : ProtocolError} (hrejected : Record.completeLength source = .error fault)
    (room : Nat) :
    let a := unwrap P s source room
    ((∃ e, a.report = .error e) ↔
      (plaintext s.session).length ≤ room ∧ s.peerClosed = false) ∧
    ∀ e, a.report = .error e →
      e = .protocol fault ∧ a.written = plaintext s.session ∧ a.engine.pending = 0 ∧
        plaintext a.engine.session = [] := by
  intro a
  obtain ⟨left, hdeliver, hcounted, hleft, hclosed⟩ := h.deliver hs room
  have ha : a = _ := unwrap_rejected hrejected hdeliver
  have hcount : left.pending = (plaintext s.session).length - room := by
    rw [show left.pending = (plaintext left.session).length from hcounted, hleft,
      List.length_drop]
  rw [ha]
  by_cases hpending : 0 < left.pending
  · simp only [if_pos hpending]
    refine ⟨iff_of_false nofun ?_, nofun⟩
    rintro ⟨hfits, -⟩
    omega
  · have hfits : (plaintext s.session).length ≤ room := by omega
    simp only [if_neg hpending, hclosed]
    cases hpeer : s.peerClosed with
    | true => exact ⟨iff_of_false nofun nofun, nofun⟩
    | false =>
      refine ⟨iff_of_true ⟨_, rfl⟩ ⟨hfits, rfl⟩, fun e he => ⟨?_, ?_, ?_, ?_⟩⟩
      · cases he
        rfl
      · exact List.take_of_length_le hfits
      · omega
      · exact hleft.trans (List.drop_of_length_le hfits)

/-- In a series of unwraps that succeed or have their header rejected, what is handed out and what
still waits is what waited at the start and the plaintext of the records. Calls that succeed report
what they hand out. A header that is not accepted makes a call fail exactly if what waits fits and
the peer has not closed; such a call has handed out all that waited and reports nothing of it. -/
theorem rejected_unreported (h : Releases P plaintext) (hs : Counted plaintext s)
    (hends : Orderly ((engine P).series .unwrap s offers)) :
    let cs := (engine P).series .unwrap s offers
    let left := (engine P).afterSeries .unwrap s offers
    let opened := journal P plaintext s offers
    (cs.flatMap (fun c => c.answer.written) ++ plaintext left.session =
        plaintext s.session ++ opened.flatMap Opened.plaintext ∧
      opened.map Opened.record = recordsOf cs) ∧
    ∀ c ∈ cs,
      (∀ r, c.answer.report = .ok r → c.produced = c.answer.written) ∧
      (Rejected c.offer.source →
        ((∃ e, c.answer.report = .error e) ↔
          (plaintext c.found.session).length ≤ c.offer.destination.length ∧
            c.found.peerClosed = false)) ∧
      ∀ e, c.answer.report = .error e →
        c.produced = [] ∧ c.answer.written = plaintext c.found.session ∧ c.left.pending = 0 ∧
          plaintext c.left.session = [] := by
  intro cs left opened
  obtain ⟨haccount, hrecords, -, hcounts⟩ := account_series h hs offers hends
  refine ⟨⟨haccount, hrecords⟩, fun c hc => ?_⟩
  have hserved : c.answer =
      unwrap P c.found c.offer.source c.offer.destination.length :=
    congrArg Served.answer (Engine.mem_series hc)
  have hfound : Counted plaintext c.found := (hcounts c hc).1
  refine ⟨fun r hreport => produced_of_unwrap hc hreport, ?_, fun e hreport => ?_⟩
  · rintro ⟨fault, hrejected⟩
    rw [hserved]
    exact (fails_of_rejected h hfound hrejected _).1
  · have hfailed : ¬c.Succeeds := by
      rintro ⟨r, hok⟩
      rw [hok] at hreport
      cases hreport
    obtain ⟨fault, hrejected⟩ := (hends c hc).resolve_left hfailed
    refine ⟨Served.produced_of_error hreport, ?_⟩
    rw [Served.left, hserved]
    rw [hserved] at hreport
    exact ((fails_of_rejected h hfound hrejected _).2 e hreport).2

/-- Behind the records of the meeting, the header of another protocol makes the third of the calls
fail. -/
theorem rejected_unreported_meeting :
    let P := Symbolic.Server.provider
    let fresh : State Symbolic.Server := ⟨meetingServer, 0, false⟩
    let offers := meetingRecords ++ [⟨foreignHeader, []⟩, ⟨foreignHeader, [0, 0, 0]⟩, ⟨[], [0, 0, 0]⟩]
    let cs := (engine P).series .unwrap fresh offers
    let left := (engine P).afterSeries .unwrap fresh offers
    let opened := journal P Symbolic.Party.plaintext fresh offers
    (Releases P Symbolic.Party.plaintext ∧ Counted Symbolic.Party.plaintext fresh ∧
      Orderly cs) ∧
    (cs.flatMap (fun c => c.answer.written) ++ left.session.plaintext =
        meetingServer.plaintext ++ opened.flatMap Opened.plaintext ∧
      opened.map Opened.record = recordsOf cs) ∧
    ∀ c ∈ cs,
      (∀ r, c.answer.report = .ok r → c.produced = c.answer.written) ∧
      (Rejected c.offer.source →
        ((∃ e, c.answer.report = .error e) ↔
          c.found.session.plaintext.length ≤ c.offer.destination.length ∧
            c.found.peerClosed = false)) ∧
      ∀ e, c.answer.report = .error e →
        c.produced = [] ∧ c.answer.written = c.found.session.plaintext ∧ c.left.pending = 0 ∧
          c.left.session.plaintext = [] := by
  obtain ⟨-, -, ⟨hends, -⟩, -⟩ := meeting_values
  have hreleases := Symbolic.Server.handsOut.toReleases
  exact ⟨⟨hreleases, rfl, hends⟩, rejected_unreported hreleases rfl hends⟩

/-- The call fails, the byte that waited has left the session, and no later call reports it. -/
theorem rejected_takes_plaintext :
    let P := Symbolic.Server.provider
    let fresh : State Symbolic.Server := ⟨meetingServer, 0, false⟩
    let waiting := (engine P).afterSeries .unwrap fresh meetingRecords
    let lost := unwrap P waiting foreignHeader 3
    Rejected foreignHeader ∧ lost.report = .error (.protocol (.invalidMessage .invalidContentType)) ∧
    ¬(lost.engine.pending = waiting.pending ∧
      lost.engine.session.plaintext = waiting.session.plaintext) ∧
    (unwrap P lost.engine [] 3).report = .ok ⟨.underflow, 0, 0⟩ := by
  obtain ⟨⟨hpending, -⟩, -, -, hreport, hnone, -, hnothing⟩ := meeting_values
  refine ⟨by decide, hreport, ?_, hnothing⟩
  rintro ⟨hsame, -⟩
  rw [hnone, hpending] at hsame
  exact absurd hsame (by decide)

end

end RecordLayer.Tls
