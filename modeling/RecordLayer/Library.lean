import RecordLayer.Backend

/-!
# The backends of a process

A process has two backends with fixed names: a native one, which is tried only when it is preferred,
and a portable one to fall back on.
-/

namespace RecordLayer

/-- How the two backends of a process behave. -/
structure Library where
  native : Provision
  portable : Except Error (List CipherSuite)

namespace Library

/-- Both backends work and offer the standard suites. -/
def standard : Library :=
  ⟨.ready CipherSuite.standard, .ok CipherSuite.standard⟩

def nativeBackend (l : Library) : Candidate :=
  ⟨"aws-lc-rs", true, l.native⟩

def portableBackend (l : Library) : Backend :=
  ⟨"ring", false, l.portable⟩

/-- The native backend is tried only when it is preferred. -/
def choose (l : Library) (preferNative : Bool) : Noted BackendChoice :=
  Backend.select (if preferNative then some l.nativeBackend else none) l.portableBackend

end Library

end RecordLayer
