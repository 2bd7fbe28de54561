import RecordLayer.Proofs.Symbolic.Receiving
import RecordLayer.Proofs.Tls.Reading

/-!
# Independence of the chunks

A stream may come in pieces of any size, with reads and extractions at any time between them. What
becomes of it depends on its records alone.

* `Schedule` is one way in which a stream may come;
* `chunking_independent`: the records that were fed are the first ones of the stream, and two
  schedules that have fed as many have come to the same.
-/

namespace RecordLayer.Tls

open Connection

variable {ρ : Type}

/-- What a session was given to process since it was fresh. -/
def fedBy (P : Provider ρ) (V : View ρ) (start : ρ) (budget : Nat) (commands : List Command) :
    List Bytes :=
  (after (watchedEngine P V) budget (new (watchedEngine P V) (State.watch ⟨start, 0, false⟩))
    commands).engine.session.notes.fed

/-- A connection over a fresh session to which a stream comes in pieces. Nothing is written, and no
read has failed. -/
structure Schedule (P : Provider ρ) (start : ρ) (stream : Bytes) where
  budget : Nat
  commands : List Command
  silent : ∀ bs, .write bs ∉ commands
  injects : injected commands <+: stream
  returns : ReadsReturn (performed (engine P) budget (new (engine P) ⟨start, 0, false⟩) commands)

namespace Schedule

variable {P : Provider ρ} {V : View ρ} {live : ρ → Prop} {start : ρ} {stream : Bytes}

def past (x : Schedule P start stream) : Past (State ρ) :=
  performed (engine P) x.budget (new (engine P) ⟨start, 0, false⟩) x.commands

def final (x : Schedule P start stream) : Connection (State ρ) :=
  after (engine P) x.budget (new (engine P) ⟨start, 0, false⟩) x.commands

def fed (V : View ρ) (x : Schedule P start stream) : List Bytes :=
  fedBy P V start x.budget x.commands

/-- The connection at the end when the session is watched. -/
def watchedFinal (V : View ρ) (x : Schedule P start stream) : Connection (State (Watched ρ)) :=
  after (watchedEngine P V) x.budget (new (watchedEngine P V) (State.watch ⟨start, 0, false⟩))
    x.commands

def watchedPast (V : View ρ) (x : Schedule P start stream) : Past (State (Watched ρ)) :=
  performed (watchedEngine P V) x.budget (new (watchedEngine P V) (State.watch ⟨start, 0, false⟩))
    x.commands

theorem final_eq (V : View ρ) (x : Schedule P start stream) :
    x.final = (x.watchedFinal V).map State.plain := by
  rw [watchedFinal, ← after_simulates (plain_simulates P (.watch V.output)),
    ← new_simulates (plain_simulates P (.watch V.output))]
  rfl

theorem past_eq (V : View ρ) (x : Schedule P start stream) :
    x.past = (x.watchedPast V).map fun p => (p.1, p.2.map State.plain) := by
  rw [watchedPast, ← performed_simulates (plain_simulates P (.watch V.output)),
    ← new_simulates (plain_simulates P (.watch V.output))]
  rfl

theorem between (hV : V.Lawful P live) (hstart : live start) (hplaintext : V.plaintext start = [])
    (houtput : V.output start = []) (x : Schedule P start stream) :
    Between P V live start x.commands (x.watchedPast V) (x.watchedFinal V) := by
  apply between_after hV hstart hplaintext houtput x.budget x.commands x.silent
  have hreturns : ReadsReturn x.past := x.returns
  rw [past_eq V, readsReturn_map] at hreturns
  exact hreturns

/-- Everything there is to see of a schedule follows from the records that were fed. -/
theorem absorbed (hV : V.Lawful P live) (hstart : live start) (hplaintext : V.plaintext start = [])
    (houtput : V.output start = []) (x : Schedule P start stream) :
    x.final.engine =
        ⟨(absorbAll P V start (x.fed V)).session, 0, (absorbAll P V start (x.fed V)).peerClosed⟩ ∧
      payloads .read x.past = (absorbAll P V start (x.fed V)).plaintext ∧
      payloads .extract x.past ++ x.final.outbound.held =
        (absorbAll P V start (x.fed V)).output := by
  have hb := x.between hV hstart hplaintext houtput
  have habsorbed : absorbAll P V start (x.fed V) = _ := hb.tracks.absorbed
  have hpending := hb.tracks.pending
  rw [hb.plaintext, List.length_nil] at hpending
  rw [habsorbed, past_eq V, final_eq V, payloads_map, payloads_map, hb.plaintext, hb.output,
    List.append_nil, List.append_nil, hV.emptied _ hb.tracks.live hb.plaintext hb.output, ← hpending]
  exact ⟨rfl, rfl, rfl⟩

end Schedule

variable {P : Provider ρ} {V : View ρ} {live : ρ → Prop} {start : ρ}

/-- The records that a session is fed are the first frames of the stream, each once and whole, also
when the last read of all fails. Any two schedules that have fed as many have the same session,
have read the same plaintext, and have the same output extracted or pending. -/
theorem chunking_independent (hV : V.Lawful P live) (hstart : live start)
    (hplaintext : V.plaintext start = []) (houtput : V.output start = []) (stream : Bytes) :
    (∀ x : Schedule P start stream, x.fed V <+: Record.frames stream ∧
      ∀ command, (∀ bs, command ≠ .write bs) → injected (x.commands ++ [command]) <+: stream →
        fedBy P V start x.budget (x.commands ++ [command]) <+: Record.frames stream) ∧
    ∀ x y : Schedule P start stream, (x.fed V).length = (y.fed V).length →
      x.final.engine = y.final.engine ∧
      payloads .read x.past = payloads .read y.past ∧
      payloads .extract x.past ++ x.final.outbound.held =
        payloads .extract y.past ++ y.final.outbound.held := by
  have hfed : ∀ x : Schedule P start stream, x.fed V <+: Record.frames stream := by
    intro x
    have hb := x.between hV hstart hplaintext houtput
    exact hb.fedInOrder.trans (Record.frames_mono x.injects)
  refine ⟨fun x => ⟨hfed x, ?_⟩, ?_⟩
  · intro command hwrite hinjects
    have hb := x.between hV hstart hplaintext houtput
    have hnext := hb.fedInOrder_step hV x.budget hwrite
    rw [fedBy, after_concat]
    exact hnext.trans (Record.frames_mono hinjects)
  · intro x y hlength
    have heq : x.fed V = y.fed V := by
      apply (List.prefix_of_prefix_length_le (hfed x) (hfed y) (Nat.le_of_eq hlength)).eq_of_length
      exact hlength
    obtain ⟨hengine, hread, hsent⟩ := x.absorbed hV hstart hplaintext houtput
    obtain ⟨hengine', hread', hsent'⟩ := y.absorbed hV hstart hplaintext houtput
    rw [heq] at hengine hread hsent
    exact ⟨hengine.trans hengine'.symm, hread.trans hread'.symm, hsent.trans hsent'.symm⟩

/-- A fresh server gets two alerts and the front of a third, in one piece and in two that part in a
header. -/
theorem chunking_independent_two_alerts :
    let server := Symbolic.Server.fresh 0 ⟨[], [.tls13], [.x25519], .none, [], [], []⟩
    let stream : Bytes := [21, 3, 3, 0, 2, 1, 90, 21, 3, 3, 0, 2, 1, 90, 21, 3]
    let whole : List Command := [.inject stream, .read]
    let pieces : List Command :=
      [.inject (stream.take 3), .read, .extract, .inject (stream.drop 3), .read, .handshakeStatus]
    let c := new Symbolic.Server.engine ⟨server, 0, false⟩
    fedBy Symbolic.Server.provider Symbolic.Server.view server 9 whole =
        [stream.take 7, stream.take 7] ∧
      (after Symbolic.Server.engine 9 c whole).engine =
        (after Symbolic.Server.engine 9 c pieces).engine := by
  intro server stream whole pieces c
  let x : Schedule Symbolic.Server.provider server stream :=
    ⟨9, whole, by simp [whole], by decide, by decide +kernel⟩
  let y : Schedule Symbolic.Server.provider server stream :=
    ⟨9, pieces, by simp [pieces], by decide, by decide +kernel⟩
  have hfed : x.fed Symbolic.Server.view = [stream.take 7, stream.take 7] := by decide +kernel
  have hlength : (x.fed Symbolic.Server.view).length = (y.fed Symbolic.Server.view).length := by
    decide +kernel
  have hsame := (chunking_independent Symbolic.Server.lawful
    (Symbolic.Server.standing_fresh 0 _) rfl rfl stream).2 x y hlength
  exact ⟨hfed, hsame.1⟩

end RecordLayer.Tls
