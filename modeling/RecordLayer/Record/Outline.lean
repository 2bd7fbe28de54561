import RecordLayer.Record

/-!
# Outlines of record streams

An outline shows the records of a byte string by content type and body length. It reads lengths
alone, so it also fits a string that no session would take.
-/

namespace RecordLayer.Record

/-- A record as an outline shows it. -/
structure Shape where
  type : UInt8
  /-- The length that the header says. -/
  length : Nat
  /-- Whether the body is there whole. -/
  complete : Bool
  deriving DecidableEq

structure Outline where
  shapes : List Shape
  /-- The number of bytes after the last record, too few for a header. -/
  rest : Nat
  deriving DecidableEq

def outline (bs : Bytes) : Outline :=
  match bs with
  | type :: _ :: _ :: high :: low :: body =>
    let length := Bytes.toNat16 high low
    let after := outline (body.drop length)
    { after with shapes := ⟨type, length, decide (length ≤ body.length)⟩ :: after.shapes }
  | _ => ⟨[], bs.length⟩
termination_by bs.length
decreasing_by
  simp only [List.length_drop, List.length_cons]
  omega

end RecordLayer.Record
