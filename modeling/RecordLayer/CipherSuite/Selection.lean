import RecordLayer.CipherSuite
import RecordLayer.Notice
import RecordLayer.Text.Blank

/-!
# Selecting cipher suites

A cipher list names suites between commas, in any case and with blanks around the names. The suites
of TLS 1.3 go by two names, `TLS_AES_…` and `TLS13_AES_…`; `canonicalName` makes them one.

* `requested` gives the canonical names of a list;
* `select` keeps the available suites that are requested, in their own order, and all of them when
  nothing is requested.
-/

namespace RecordLayer.CipherSuite

/-- What stands before the name of every suite in the common spelling. -/
def commonStart : List Char := ['T', 'L', 'S', '_']

/-- What stands before the name of a TLS 1.3 suite in the canonical spelling. -/
def tls13Start : List Char := ['T', 'L', 'S', '1', '3', '_']

/-- How the names of TLS 1.3 suites go on. -/
def tls13Ciphers : List (List Char) :=
  [['A', 'E', 'S', '_'], ['C', 'H', 'A', 'C', 'H', 'A', '2', '0', '_']]

/-- Whether `cs` goes on like the name of a TLS 1.3 suite. -/
def startsTls13Cipher (cs : List Char) : Bool :=
  tls13Ciphers.any (·.isPrefixOf cs)

/-- The canonical spelling: capital letters, and `TLS13_` for the suites of TLS 1.3. -/
def canonicalName (name : List Char) : List Char :=
  let capitals := Text.upper name
  if commonStart.isPrefixOf capitals && startsTls13Cipher (capitals.drop commonStart.length) then
    tls13Start ++ capitals.drop commonStart.length
  else
    capitals

/-- The canonical names of the entries of a list that are not blank. -/
def requested (list : Option String) : List String :=
  ((list.elim [] fun s => s.toList.splitOn ',').map Text.trim).filterMap fun entry =>
    if entry.isEmpty then none else some (String.ofList (canonicalName entry))

/-- The available suites that a list selects. -/
def select (list : Option String) (available : List CipherSuite) : Noted (List CipherSuite) :=
  let names := requested list
  if names.isEmpty then
    .ok available
  else
    let skipped := names.filter fun name => !available.any (·.name == name)
    let selected := available.filter fun suite => names.contains suite.name
    let result : Noted (List CipherSuite) :=
      if selected.isEmpty then .error (.config (.noUsableCipherSuite names)) else .ok selected
    result.after (skipped.map .cipherSkipped)

end RecordLayer.CipherSuite
