import RecordLayer.Bytes

/-!
# Host names

What a client may ask for as the name of a host: dot-separated labels of ASCII letters, digits,
hyphens and underscores. An address is no name, even where one may stand.
-/

namespace RecordLayer.Wire.HostName

def maxLabel : Nat := 63

def maxName : Nat := 253

/-- The characters of a byte string, which are meant to be ASCII. -/
def text (bs : Bytes) : List Char :=
  bs.map fun b => Char.ofNat b.toNat

/-- The labels between the dots of a byte string. -/
def labels (bs : Bytes) : List (List Char) :=
  (text bs).splitOn '.'

def isLabelChar (c : Char) : Bool :=
  c.isAlphanum || c == '-' || c == '_'

/-- Labels neither begin nor end with a hyphen. -/
def isLabel (label : List Char) : Bool :=
  !label.isEmpty && label.length ≤ maxLabel && label.all isLabelChar &&
    label.head? != some '-' && label.getLast? != some '-'

/-- One dot may end a name. -/
def withoutRoot (labels : List (List Char)) : List (List Char) :=
  if labels.getLast? = some [] then labels.dropLast else labels

/-- Whether the bytes are a host name; its last label is not a number. -/
def isName (bs : Bytes) : Bool :=
  let parts := withoutRoot (labels bs)
  bs.length ≤ maxName && !parts.isEmpty && parts.all isLabel &&
    !(parts.getLast?.getD []).all Char.isDigit

/-- Names do not depend on case; this is the lower-case form. -/
def normalize (bs : Bytes) : String :=
  String.ofList ((text bs).map Char.toLower)

end RecordLayer.Wire.HostName
