import RecordLayer.Backend
import RecordLayer.CipherSuite.Selection
import RecordLayer.KeyMaterial

/-!
# Server configurations

A server configuration is what all sessions of one set of keys share. `ServerConfig.build` makes one
from a policy, a backend and key material, and names the first thing that does not fit: the cipher
list, then the versions, then the trust anchors, then the identity of the server.

What a certificate or a key is worth is for the TLS implementation to say: `CertificateRules` are
its answers.
-/

namespace RecordLayer

/-- What a TLS implementation has against a certificate or an identity. -/
structure CertificateRules where
  /-- Why a certificate cannot be a trust anchor. -/
  anchorFault? : Bytes → Option ProtocolError
  /-- Why a chain and a key are not the identity of a server. -/
  identityFault? : List Bytes → Bytes → Option ProtocolError

structure ServerConfig where
  suites : List CipherSuite
  versions : List TlsVersion
  groups : List Wire.Group
  clientAuth : ClientAuth
  /-- The anchors for client certificates; none if no client is asked for one. -/
  anchors : List Bytes
  chain : List Bytes
  key : Bytes
  deriving DecidableEq

namespace ServerConfig

/-- The versions have to share at least one suite with the selection. -/
def checkVersions (suites : List CipherSuite) (versions : List TlsVersion) : Except Error Unit :=
  if suites.any fun suite => versions.contains suite.version then .ok ()
  else .error (.tls (.general "no usable cipher suites configured"))

/-- Clients can only be checked against anchors that are certificates, and against at least one. -/
def checkAnchors (rules : CertificateRules) (anchors : List Bytes) : Except Error Unit :=
  match anchors.findSome? rules.anchorFault? with
  | some fault => .error (.tls fault)
  | none => if anchors.isEmpty then .error (.clientVerifier .noTrustAnchors) else .ok ()

/-- The anchors for client certificates, if clients are asked for them. -/
def clientAnchors (rules : CertificateRules) (mode : ClientAuth) (anchors : List Bytes) :
    Except Error (List Bytes) :=
  if mode = .none then .ok []
  else (checkAnchors rules anchors).map fun _ => anchors

def checkIdentity (rules : CertificateRules) (keys : KeyMaterial) : Except Error Unit :=
  match rules.identityFault? keys.chain keys.key with
  | some fault => .error (.tls fault)
  | none => .ok ()

/-- Everything after the cipher list. -/
def assemble (rules : CertificateRules) (options : Options) (backend : BackendChoice)
    (keys : KeyMaterial) (suites : List CipherSuite) : Except Error ServerConfig := do
  checkVersions suites options.versions
  let anchors ← clientAnchors rules options.clientAuth keys.trustAnchors
  checkIdentity rules keys
  return {
    suites
    versions := options.versions
    groups := backend.groups
    clientAuth := options.clientAuth
    anchors
    chain := keys.chain
    key := keys.key }

def build (rules : CertificateRules) (options : Options) (backend : BackendChoice)
    (keys : KeyMaterial) : Noted ServerConfig :=
  (CipherSuite.select options.cipherList backend.suites).andThen fun suites =>
    ⟨options.dropped.map .versionDropped, assemble rules options backend keys suites⟩

end ServerConfig

end RecordLayer
