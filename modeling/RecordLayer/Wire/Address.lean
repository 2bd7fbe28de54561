import RecordLayer.Bytes

/-!
# Addresses

The written forms of internet addresses. The short one is four numbers between dots. The long one is
eight groups of hexadecimal digits between colons; two colons in a row stand once for the groups
that are left out, and the last two groups can be written as a short address.

* `Address.isDotted` and `Address.isGrouped` recognize the two forms.
-/

namespace RecordLayer.Wire.Address

/-! ### Four numbers -/

/-- A part of a dotted address: a number below 256, without leading zeros. -/
def isOctet (part : List Char) : Bool :=
  !part.isEmpty && part.length ≤ 3 && part.all Char.isDigit &&
    (part.length == 1 || part.head? != some '0') &&
    part.foldl (fun n c => n * 10 + (c.toNat - '0'.toNat)) 0 < 256

def isDotted (text : List Char) : Bool :=
  let parts := text.splitOn '.'
  parts.length == 4 && parts.all isOctet

/-! ### Eight groups -/

def groupCount : Nat := 8

def isHexDigit (c : Char) : Bool :=
  c.isDigit || 'a' ≤ c && c ≤ 'f' || 'A' ≤ c && c ≤ 'F'

def isGroup (part : List Char) : Bool :=
  !part.isEmpty && part.length ≤ 4 && part.all isHexDigit

/-- How many groups the parts are; a dotted address at the end is two of them. -/
def countParts? : List (List Char) → Option Nat
  | [] => some 0
  | [last] => if isGroup last then some 1 else if isDotted last then some 2 else none
  | part :: rest => if isGroup part then (countParts? rest).map (· + 1) else none

/-- How many groups a text is. -/
def countGroups? (text : List Char) : Option Nat :=
  if text.isEmpty then some 0 else countParts? (text.splitOn ':')

/-- What stands before and after the first two colons in a row. -/
def cutAtGap? : List Char → Option (List Char × List Char)
  | ':' :: ':' :: after => some ([], after)
  | c :: rest => (cutAtGap? rest).map fun (before, after) => (c :: before, after)
  | [] => none

/-- A gap stands for one group or more. -/
def isGrouped (text : List Char) : Bool :=
  match cutAtGap? text with
  | none => countGroups? text == some groupCount
  | some (before, after) =>
    match countGroups? before, countGroups? after with
    | some first, some last => !before.contains '.' && first + last < groupCount
    | _, _ => false

def isAddress (text : List Char) : Bool :=
  isDotted text || isGrouped text

example : isAddress "10.0.0.255".toList && !isAddress "10.0.0.256".toList := by decide

example : isAddress "::".toList && isAddress "2001:DB8::1".toList &&
    isAddress "::ffff:1.2.3.4".toList := by decide

example : !isAddress "1:2".toList && !isAddress "1::2::3".toList &&
    !isAddress "1.2.3.4::".toList := by decide

end RecordLayer.Wire.Address
