import RecordLayer.Text.Unprintable

/-!
# Quoted text

Text as shown in diagnostics: between double quotes, with a backslash before quotes and
backslashes, short forms for the common controls, and the code point in hexadecimal for every other
unprintable character.
-/

namespace RecordLayer.Text.Quoted

def escape (c : Char) : List Char :=
  if c = '"' then ['\\', '"']
  else if c = '\\' then ['\\', '\\']
  else if c = '\n' then ['\\', 'n']
  else if c = '\r' then ['\\', 'r']
  else if c = '\t' then ['\\', 't']
  else if c = '\x00' then ['\\', '0']
  else if Unprintable.isUnprintable c then
    ['\\', 'u', '\x7b'] ++ Nat.toDigits 16 c.toNat ++ ['\x7d']
  else [c]

def encode (s : String) : String :=
  "\"" ++ String.ofList (s.toList.flatMap escape) ++ "\""

end RecordLayer.Text.Quoted
