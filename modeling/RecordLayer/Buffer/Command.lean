import RecordLayer.Buffer

/-!
# Commands on a buffer

The operations of a buffer as data, so that one can speak of histories. `Buffer.Command.run` gives
the reply and the buffer afterwards. Only `advance` can be refused, and then the buffer stays as it
was.
-/

namespace RecordLayer.Buffer

inductive Command where
  | put (bs : Bytes)
  | advance (count : Nat)
  | resize (size : Nat)
  | flip
  | compact
  | clear
  | clone
  | drain
  | peek
  | fill (bs : Bytes)
  | describe
  deriving DecidableEq

inductive Reply where
  | silent
  | payload (bs : Option Bytes)
  | count (n : Nat)
  | text (s : String)
  /-- The position was asked to move further than the region reaches. -/
  | overrun (requested remaining : Nat)
  deriving DecidableEq

/-- The diagnostic of a refused `advance`. -/
def overrunMessage (requested remaining : Nat) : String :=
  "GrowableBuffer::advance 越界：请求 " ++ toString requested ++ "，剩余 " ++ toString remaining

namespace Command

def run (b : Buffer) : Command → Reply × Buffer
  | put bs => (.silent, b.put bs)
  | advance count =>
    match b.advance? count with
    | some moved => (.silent, moved)
    | none => (.overrun count b.remaining, b)
  | resize size => (.silent, b.resize size)
  | flip => (.silent, b.flip)
  | compact => (.silent, b.compact)
  | clear => (.silent, b.clear)
  | clone => (.silent, b)
  | drain => let (taken, rest) := b.drain; (.payload taken, rest)
  | peek => (.payload (some b.region), b)
  | fill bs => (.count (min bs.length b.remaining), b.fill bs)
  | describe => (.text b.describe, b)

/-- The buffer after a history. -/
def runAll (b : Buffer) (commands : List Command) : Buffer :=
  commands.foldl (fun b command => (command.run b).2) b

end Command

end RecordLayer.Buffer
