import RecordLayer.Options

/-!
# Options from a document

Options are usually part of a host's own configuration file. A document holds them as a record of
named fields or as a sequence in the order of the fields. Fields that a document leaves out keep
their defaults, names that are no field are ignored, and a sequence may not be too long.

Nothing is converted: a switch is a truth value, the verification mode a whole number of 32 bits,
and only the last two fields may be null.
-/

namespace RecordLayer.Options

/-- A value in a field; numbers with a fraction, negative ones, lists and records are `other`. -/
inductive Value where
  | null
  | bool (b : Bool)
  | natural (n : Nat)
  | text (s : String)
  | other
  deriving DecidableEq

inductive Document where
  | record (fields : List (String × Value))
  | sequence (values : List Value)
  | other
  deriving DecidableEq

/-- The fields in the order of a sequence. -/
def fieldNames : List String :=
  ["no_tlsv1", "no_tlsv1_1", "enable_tlsv1_3", "verify_mode", "ssl_cipher_list",
   "prefer_native_engine"]

def Value.switch? : Value → Option Bool
  | bool b => some b
  | _ => none

def Value.mode? : Value → Option UInt32
  | natural n => if n < UInt32.size then some (UInt32.ofNat n) else none
  | _ => none

def Value.optionalText? : Value → Option (Option String)
  | null => some none
  | text s => some (some s)
  | _ => none

def Value.optionalSwitch? : Value → Option (Option Bool)
  | null => some none
  | bool b => some (some b)
  | _ => none

/-- Sets the named field; a name that is no field changes nothing. -/
def set? (o : Options) (name : String) (value : Value) : Option Options :=
  match name with
  | "no_tlsv1" => value.switch?.map fun b => { o with noTls10 := b }
  | "no_tlsv1_1" => value.switch?.map fun b => { o with noTls11 := b }
  | "enable_tlsv1_3" => value.switch?.map fun b => { o with enableTls13 := b }
  | "verify_mode" => value.mode?.map fun m => { o with verifyMode := m }
  | "ssl_cipher_list" => value.optionalText?.map fun s => { o with cipherList := s }
  | "prefer_native_engine" => value.optionalSwitch?.map fun b => { o with preferNative := b }
  | _ => some o

/-- Sets fields one after the other. -/
def setAll? (o : Options) (fields : List (String × Value)) : Option Options :=
  fields.foldlM (fun o field => o.set? field.1 field.2) o

def ofDocument? : Document → Option Options
  | .record fields => setAll? {} fields
  | .sequence values =>
    if values.length ≤ fieldNames.length then setAll? {} (fieldNames.zip values) else none
  | .other => none

end RecordLayer.Options
