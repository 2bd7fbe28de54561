import RecordLayer.Symbolic.Certificate
import RecordLayer.Symbolic.Choice

/-!
# Negotiation

What a server makes of a client's hello. Each function here settles one thing, or says why the two
cannot go on; a server asks them one after the other, so the first reason counts.

* Version 1.3 is preferred. A version counts only if a selected suite belongs to it.
* The suite and the group are the first of the client's that the server has too; no key here signs
  for RSA.
* In TLS 1.3 a client that gives no key for the group is asked for one, once. After that it has to
  stay with TLS 1.3.
-/

namespace RecordLayer.Symbolic.Negotiation

open Wire

/-- Whether the configuration speaks a version. -/
def speaks (config : ServerConfig) (version : TlsVersion) : Bool :=
  config.versions.contains version && config.suites.any (·.version == version)

/-! ### In any version -/

/-- Records have to be left uncompressed, and nothing may come together with the hello. -/
def checkOffer (h : ClientHello) (rest : Bytes) : Except Fault Unit :=
  if ¬h.compressions.contains nullCompression then
    .error (.incompatible .nullCompressionRequired .illegalParameter)
  else if ¬rest.isEmpty then
    .error (.misbehaved .pendingFragment .unexpectedMessage)
  else .ok ()

/-- The host that the client asks for, if it says one. -/
def host (h : ClientHello) : Except Fault (Option String) :=
  match h.serverName? with
  | some (.host name) => .ok (some name)
  | some .invalid => .error (.misbehaved .notOneHostName .illegalParameter)
  | some .address | none => .ok none

/-- The schemes in which the client takes signatures. -/
def schemes (h : ClientHello) : Except Fault (List Nat) :=
  match h.signatureSchemes? with
  | some schemes => .ok schemes
  | none => .error (.incompatible .signatureAlgorithmsRequired .handshakeFailure)

/-- The newest version that both speak; a client that was asked for another hello has left TLS 1.2
behind. Clients that do not list their versions speak at most TLS 1.2. -/
def version (config : ServerConfig) (retried : Bool) (h : ClientHello) :
    Except Fault TlsVersion :=
  let refuse reason := Except.error (Fault.incompatible reason .protocolVersion)
  let speaks12 := speaks config .tls12 && !retried
  match h.versions? with
  | some versions =>
    if versions.contains version13 ∧ speaks config .tls13 then .ok .tls13
    else if versions.contains version12 ∧ speaks12 then .ok .tls12
    else refuse .tls12NotOfferedOrEnabled
  | none =>
    if h.legacyVersion < version12 then refuse .tls12NotOffered
    else if ¬speaks12 ∧ speaks config .tls13 then refuse .supportedVersionsRequired
    else .ok .tls12

def group (config : ServerConfig) (version : TlsVersion) (h : ClientHello) :
    Except Fault Group :=
  let usable := config.groups.filter (·.belongsTo version)
  match h.groups.findSome? fun code => usable.find? (·.code == code) with
  | some group => .ok group
  | none => .error (.incompatible .noGroupsInCommon .handshakeFailure)

def suite (config : ServerConfig) (version : TlsVersion) (h : ClientHello) :
    Except Fault CipherSuite :=
  let usable := config.suites.filter fun suite =>
    suite.version == version && suite.authentication != .rsa
  match h.suites.findSome? fun code => usable.find? (·.code == code) with
  | some suite => .ok suite
  | none => .error (.incompatible .noCipherSuitesInCommon .handshakeFailure)

/-- Clients that name types of certificates must not insist on bare keys, for either side. -/
def checkCertificateTypes (h : ClientHello) : Except Fault Unit :=
  let insists code :=
    let types := h.certificateTypes code
    types.contains rawPublicKey && !types.contains signedCertificate
  if insists Extension.serverCertificateTypes || insists Extension.clientCertificateTypes then
    .error (.incompatible .incorrectCertificateTypes .handshakeFailure)
  else .ok ()

/-! ### In TLS 1.2 -/

/-- The schemes in which a server of TLS 1.2 can sign with keys on elliptic curves. -/
def curveSchemes : List Nat :=
  [0x0807, 0x0603, 0x0503, 0x0403]

/-- Clients that say nothing of point formats take uncompressed points. -/
def checkPoints (h : ClientHello) : Except Fault Unit :=
  match h.pointFormats? with
  | some formats =>
    if formats.contains uncompressedPoints then .ok ()
    else .error (.incompatible .uncompressedPointsRequired .illegalParameter)
  | none => .ok ()

/-- One of the schemes has to be the client's too. -/
def checkSchemes12 (schemes : List Nat) : Except Fault Unit :=
  if curveSchemes.any schemes.contains then .ok ()
  else .error (.incompatible .noSignatureSchemesInCommon .handshakeFailure)

/-- The server's key has to sign in a scheme that the client takes. -/
def checkKey12 (key : KeyAlgorithm) (schemes : List Nat) : Except Fault Unit :=
  if schemes.contains key.scheme then .ok ()
  else .error (.silent (.general "incompatible signing key"))

/-! ### In TLS 1.3 -/

/-- A hello of TLS 1.3 gives keys, and says nothing twice. -/
def keyShares (h : ClientHello) : Except Fault (List Extension.KeyShare) :=
  if h.compressions.length ≠ 1 then
    .error (.misbehaved .incorrectCompressions .illegalParameter)
  else
    match h.keyShares? with
    | none => .error (.incompatible .keyShareRequired .handshakeFailure)
    | some shares =>
      if ¬(shares.map (·.group)).Nodup then
        .error (.misbehaved .duplicateKeyShares .illegalParameter)
      else if ¬h.certificateCompressions.Nodup then
        .error (.misbehaved .duplicateCertificateCompressions .illegalParameter)
      else .ok shares

/-- Early data is always refused; this is how much of it may come all the same. -/
def earlyDataLimit : Nat := 16384

def refusedEarlyData (h : ClientHello) : Option Nat :=
  if h.has Extension.earlyData then some earlyDataLimit else none

/-- Early data cannot come after the server has asked for another hello. -/
def checkEarlyData (retried : Bool) (h : ClientHello) : Except Fault Unit :=
  if retried ∧ h.has Extension.earlyData then
    .error (.misbehaved .earlyDataOnRetry .illegalParameter)
  else .ok ()

/-- Whether the client offers keys of earlier sessions. -/
def offersKeys (h : ClientHello) : Bool :=
  h.has Extension.preSharedKey

/-- A client that has offered keys of earlier sessions offers them again in its second hello. -/
def checkKeptKeys (hadKeys : Bool) (h : ClientHello) : Except Fault Unit :=
  if hadKeys ∧ ¬offersKeys h then
    .error (.misbehaved .missingPreSharedKeysOnRetry .illegalParameter)
  else .ok ()

/-- The key for a group; none if the client has to be asked for it. -/
def shareFor (retried : Bool) (group : Group) (shares : List Extension.KeyShare) :
    Except Fault (Option Bytes) :=
  match shares.find? (·.group == group.code) with
  | some share => .ok (some share.key)
  | none => if retried then .error (.misbehaved .refusedRetry .illegalParameter) else .ok none

/-- Keys of earlier sessions are never known here, but their offer has to be well-formed. -/
def checkPreSharedKeys (h : ClientHello) : Except Fault Unit :=
  match h.preSharedKeys? with
  | none => .ok ()
  | some offered =>
    if ¬h.has Extension.preSharedKeyModes then
      .error (.misbehaved .missingPreSharedKeyModes .missingExtension)
    else if offered.binders = 0 then
      .error (.misbehaved .missingBinder .decodeError)
    else if offered.binders ≠ offered.identities then
      .error (.misbehaved .mismatchedBinders .illegalParameter)
    else .ok ()

def checkShare (group : Group) (key : Bytes) : Except Fault Unit :=
  if group.isPublicKey key then .ok ()
  else .error (.misbehaved .invalidKeyShare .illegalParameter)

/-- The server's key has to sign in a scheme that the client takes. -/
def checkKey13 (key : KeyAlgorithm) (schemes : List Nat) : Except Fault Unit :=
  if schemes.contains key.scheme then .ok ()
  else .error (.incompatible .noSignatureSchemesInCommon .handshakeFailure)

end RecordLayer.Symbolic.Negotiation
