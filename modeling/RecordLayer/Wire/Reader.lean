import RecordLayer.Bytes
import RecordLayer.Error.Corruption

/-!
# Readers

Handshake messages are made of numbers, vectors behind their lengths, and lists of such. A reader
takes one of them off the front of a byte string, or says how the bytes are malformed.

* `Reader.number`, `Reader.vector` and `Reader.list` are the building blocks;
* `Reader.run` reads from a whole byte string and lets bytes be left over, `Reader.finish` does not;
* `number` and `vector` write what the readers of the same name read.
-/

namespace RecordLayer.Wire

/-- A number in so many bytes, most significant first. -/
def number (width n : Nat) : Bytes :=
  (List.range width).reverse.map fun i => UInt8.ofNat (n >>> (8 * i))

/-- A byte string behind its length in so many bytes. -/
def vector (width : Nat) (bs : Bytes) : Bytes :=
  number width bs.length ++ bs

/-- The number that bytes write, most significant first. -/
def toNumber (bs : Bytes) : Nat :=
  bs.foldl (fun n b => n * 256 + b.toNat) 0

/-- What takes a value off the front of a byte string. -/
abbrev Reader (α : Type) : Type :=
  StateT Bytes (Except Corruption) α

namespace Reader

variable {α : Type}

def run (r : Reader α) (bs : Bytes) : Except Corruption α :=
  (StateT.run r bs).map (·.1)

/-- All bytes that are left. -/
def rest : Reader Bytes := do
  let bs ← get
  set ([] : Bytes)
  return bs

def isDone : Reader Bool := do
  return (← get).isEmpty

/-- No bytes may be left of what has the name. -/
def finish (name : String) : Reader Unit := do
  unless ← isDone do throw (.trailingData name)

/-- The next bytes; `short` is what is wrong when there are fewer. -/
def take (count : Nat) (short : Corruption) : Reader Bytes := do
  let bs ← get
  if bs.length < count then throw short
  set (bs.drop count)
  return bs.take count

/-- A number in so many bytes. -/
def number (width : Nat) (name : String) : Reader Nat :=
  toNumber <$> take width (.missingData name)

/-- The name of a plain number of so many bytes. -/
def widthName (width : Nat) : String :=
  "u" ++ toString (8 * width)

def plain (width : Nat) : Reader Nat :=
  number width (widthName width)

/-- The content of a vector behind its length in so many bytes. -/
def vector (width : Nat) : Reader Bytes := do
  take (← plain width) .messageTooShort

/-- A vector that must not be empty. -/
def filled (width : Nat) (empty : Corruption) : Reader Bytes := do
  let length ← plain width
  if length = 0 then throw empty
  take length .messageTooShort

/-- A vector that must not be longer than a limit. -/
def limited (width limit : Nat) (excess : Corruption) : Reader Bytes := do
  let length ← plain width
  if limit < length then throw excess
  take length .messageTooShort

/-- Reads items until no bytes are left, at most so many. -/
def items (item : Reader α) : Nat → Bytes → Except Corruption (List α)
  | 0, _ => .ok []
  | left + 1, bs =>
    if bs.isEmpty then .ok []
    else do
      let (first, bs) ← StateT.run item bs
      return first :: (← items item left bs)

/-- The items that fill a byte string; each takes at least one byte. -/
def list (content : Reader Bytes) (item : Reader α) : Reader (List α) := do
  let bs ← content
  items item bs.length bs

/-- Only checks. -/
def check (r : Reader α) : Reader Unit :=
  discard r

end Reader

end RecordLayer.Wire
