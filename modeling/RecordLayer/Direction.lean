/-!
# Directions

An engine works in two directions: `wrap` turns plaintext into records, `unwrap` turns records into
plaintext.
-/

namespace RecordLayer

inductive Direction where
  | wrap
  | unwrap
  deriving DecidableEq

def Direction.name : Direction → String
  | wrap => "Wrap"
  | unwrap => "Unwrap"

end RecordLayer
