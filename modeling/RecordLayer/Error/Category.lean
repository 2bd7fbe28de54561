/-!
# Error categories

Every error of the library falls into one of four categories, whatever its cause.
-/

namespace RecordLayer

inductive Category where
  | configuration
  | authentication
  | integrity
  | internal
  deriving DecidableEq

def Category.name : Category → String
  | configuration => "Configuration"
  | authentication => "Authentication"
  | integrity => "Integrity"
  | internal => "Internal"

end RecordLayer
