import RecordLayer.Library
import RecordLayer.Text.Blank

/-!
# What a process says about itself

An environment flag asks for the native backend. The version that a process shows is the name of
that backend if it was asked for and works, and unknown otherwise.
-/

namespace RecordLayer.Library

structure Summary where
  noSsl3 : Bool
  noTls1 : Bool
  nativeRequested : Bool
  libraryVersion : String
  version : String
  deriving DecidableEq

namespace Summary

def unknownVersion : String := "Unknown"

/-- Old protocol versions are never available. -/
def ofVersion (nativeRequested : Bool) (version : String) : Summary :=
  { noSsl3 := true
    noTls1 := true
    nativeRequested
    libraryVersion := version
    version }

end Summary

/-- The values of the flag that ask for the native backend, in small letters. -/
def truthy : List (List Char) :=
  [['1'], ['t', 'r', 'u', 'e'], ['y', 'e', 's'], ['o', 'n']]

def isTruthy (flag : String) : Bool :=
  truthy.contains (Text.lower (Text.trim flag.toList))

/-- The native backend's name, if it is what a preference for it leads to. -/
def nativeName? (choice : Except Error BackendChoice) : Option String :=
  match choice with
  | .ok c => if c.native then some c.name else none
  | .error _ => none

/-- The summary under a flag, with the notices of trying the native backend. -/
def summarize (l : Library) (flag : Option String) : List Notice × Summary :=
  if flag.any isTruthy then
    let tried := l.choose true
    (tried.notices, .ofVersion true ((nativeName? tried.result).getD Summary.unknownVersion))
  else
    ([], .ofVersion false Summary.unknownVersion)

end RecordLayer.Library
