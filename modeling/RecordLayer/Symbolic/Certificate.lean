import RecordLayer.ServerConfig
import RecordLayer.Symbolic.Fault
import RecordLayer.Symbolic.Secret
import RecordLayer.Wire.Form

/-!
# Symbolic certificates

Certificates and keys without cryptography: a certificate says for which host it is, who issued it
and with whose key it is signed. A certificate and its private key are written as the same bytes,
which hold its label, and other bytes are neither.

* `Certificate.verify` looks for a path from a chain to a trusted certificate, and gives up when it
  has checked too many signatures;
* `Certificate.sign` and `Certificate.checkSignature` are the proof that one has its key;
* `Certificate.rules` is what a server has against anchors and identities.
-/

namespace RecordLayer.Symbolic

open Wire

/-- The algorithm of a key; a key signs in one way only. -/
inductive KeyAlgorithm where
  | p256
  | ed25519
  deriving DecidableEq

namespace KeyAlgorithm

/-- The identifier of the algorithm of a key, as certificates write it. -/
def keyIdentifier : KeyAlgorithm → List UInt8
  | p256 => [6, 7, 42, 134, 72, 206, 61, 2, 1, 6, 8, 42, 134, 72, 206, 61, 3, 1, 7]
  | ed25519 => [6, 3, 43, 101, 112]

/-- The identifier of the algorithm of its signatures, as certificates write it. -/
def signatureIdentifier : KeyAlgorithm → List UInt8
  | p256 => [6, 8, 42, 134, 72, 206, 61, 4, 3, 2]
  | ed25519 => [6, 3, 43, 101, 112]

/-- The number of the scheme in which a key signs a handshake. -/
def scheme : KeyAlgorithm → Nat
  | p256 => 0x0403
  | ed25519 => 0x0807

/-- The length of a signature. -/
def signatureLength : KeyAlgorithm → Nat
  | p256 => 71
  | ed25519 => 64

end KeyAlgorithm

structure Certificate where
  label : String
  /-- The subject, also the one host name that the certificate is valid for. -/
  host : String
  /-- The subject of the issuer. -/
  issuer : String
  /-- The label of the key that signed it. -/
  signer : String
  /-- Whether it may sign others, and then not stand for a host itself. -/
  authority : Bool := false
  key : KeyAlgorithm := .p256
  /-- The algorithm of the key that signed it. -/
  signerKey : KeyAlgorithm := .p256
  deriving DecidableEq

namespace Certificate

/-! ### The certificates there are -/

def selfSigned (label host : String) (key : KeyAlgorithm) : Certificate where
  label := label
  host := host
  issuer := host
  signer := label
  key := key
  signerKey := key

/-- The authority that signs the other certificates of the store. -/
def root : Certificate :=
  { selfSigned "ca" "ca.local" .p256 with authority := true }

def issued (label host : String) : Certificate where
  label := label
  host := host
  issuer := root.host
  signer := root.label

def store : List Certificate :=
  [selfSigned "a" "localhost" .p256, selfSigned "b" "localhost" .p256,
   selfSigned "c" "client.local" .p256, selfSigned "d" "other.local" .p256,
   selfSigned "ed" "localhost" .ed25519, root, issued "leaf" "localhost",
   issued "cleaf" "client.local"]

/-- The usual length of a certificate as bytes. -/
def derLength : KeyAlgorithm → Nat
  | .p256 => 327
  | .ed25519 => 263

/-- The certificate as bytes: its label, filled up to a usual length. -/
def der (c : Certificate) : Bytes :=
  let label := c.label.toUTF8.toList
  label ++ List.replicate (derLength c.key - label.length) 0

def ofDer? (bs : Bytes) : Option Certificate :=
  store.find? (·.der == bs)

/-! ### Paths -/

/-- A search for a path, with the number of signatures that may still be checked. -/
abbrev Search (α : Type) : Type :=
  ExceptT CertificateFault (StateM Nat) α

/-- The most signatures that are checked in one search. -/
def signatureLimit : Nat := 100

def Search.run {α : Type} (s : Search α) : Except CertificateFault α :=
  (StateT.run (ExceptT.run s) signatureLimit).1

/-- Takes note that one more signature is checked. -/
def countSignature : Search Unit := do
  match ← get with
  | 0 => throw .tooManySignatures
  | left + 1 => set left

/-- How much a fault says about the path that failed. -/
def weight : CertificateFault → Nat
  | .badSignature => 4
  | .authorityAsEndEntity | .endEntityAsAuthority => 3
  | .algorithmMismatch _ _ => 2
  | .badEncoding => 1
  | .unknownIssuer | .tooManySignatures | .wrongName _ _ => 0

/-- The first success, or else the first of the faults that say most. Nothing more is tried when too
many signatures were checked. -/
def firstSuccess (fault : CertificateFault) : List (Search Unit) → Search Unit
  | [] => throw fault
  | attempt :: rest =>
    tryCatch attempt fun e =>
      if e = .tooManySignatures then throw e
      else firstSuccess (if weight fault < weight e then e else fault) rest

/-- Whether one certificate was issued and signed by another. -/
def checkIssuer (issuer c : Certificate) : Search Unit := do
  if c.issuer ≠ issuer.host then throw .unknownIssuer
  countSignature
  if c.signerKey ≠ issuer.key then
    throw (.algorithmMismatch c.signerKey.signatureIdentifier issuer.key.keyIdentifier)
  if c.signer ≠ issuer.label then throw .badSignature

/-- Whether each certificate of a path was issued by the one before it, the first by the anchor. -/
def checkPath (anchor : Certificate) : List Certificate → Search Unit
  | [] => return
  | c :: below => do
    checkIssuer anchor c
    checkPath c below

/-- Only authorities may stand above other certificates, and they may not stand for a host. -/
def misuse? (c : Certificate) (below : List Certificate) : Option CertificateFault :=
  match c.authority, below.isEmpty with
  | true, true => some .authorityAsEndEntity
  | false, false => some .endEntityAsAuthority
  | _, _ => none

/-- Looks for a path from the certificate above `below` to a trusted one, over at most so many more
certificates of a chain, none of them twice. -/
def findPath (trusted : List Certificate) (chain : List Bytes) :
    Nat → Certificate → List Certificate → Search Unit
  | steps, c, below =>
    match misuse? c below with
    | some fault => throw fault
    | none =>
      let direct := trusted.map fun anchor => checkPath anchor (c :: below)
      let indirect :=
        match steps with
        | 0 => []
        | steps + 1 => chain.map fun bs =>
          match ofDer? bs with
          | none => throw .badEncoding
          | some issuer =>
            if c.issuer ≠ issuer.host ∨ issuer ∈ c :: below then throw .unknownIssuer
            else findPath trusted chain steps issuer (c :: below)
      firstSuccess .unknownIssuer (direct ++ indirect)

/-- Checks a chain against trusted certificates, and gives its first certificate. -/
def verify (trusted : List Bytes) (chain : List Bytes) : Except CertificateFault Certificate :=
  match chain with
  | [] => .error .badEncoding
  | first :: between =>
    match ofDer? first with
    | none => .error .badEncoding
    | some c => (findPath (trusted.filterMap ofDer?) between between.length c []).run.map fun _ => c

/-- Checks a chain as the identity of a host. -/
def verifyHost (trusted : List Bytes) (host : String) (chain : List Bytes) :
    Except CertificateFault Certificate := do
  let c ← verify trusted chain
  if c.host = host then return c else .error (.wrongName host c.host)

/-! ### Signatures -/

/-- The signature of a certificate's key under some content. -/
def sign (c : Certificate) (content : Bytes) : Form.Signature :=
  ⟨c.key.scheme, derive "signature" (c.label.toUTF8.toList ++ content) c.key.signatureLength⟩

/-- The schemes in which signatures are taken. -/
def schemes : List Nat :=
  [0x0503, 0x0403, 0x0807, 0x0806, 0x0805, 0x0804, 0x0601, 0x0501, 0x0401]

/-- What is wrong with a signature under some content. -/
def checkSignature (c : Certificate) (content : Bytes) (s : Form.Signature) : Option Fault :=
  if ¬schemes.contains s.scheme then
    some (.misbehaved .unadvertisedSignatureScheme .illegalParameter)
  else if s = c.sign content then none
  else some (.certificate .badSignature)

/-! ### Identities -/

def anchorFault? (bs : Bytes) : Option ProtocolError :=
  if (ofDer? bs).isSome then none else some (.invalidCertificate .badEncoding)

/-- The key has to be one, then the chain must not be empty, and its first certificate has to belong
to the key. -/
def identityFault? (chain : List Bytes) (key : Bytes) : Option ProtocolError :=
  if (ofDer? key).isNone then
    some (.general "failed to parse private key as RSA, ECDSA, or EdDSA")
  else
    match chain with
    | [] => some .noCertificatesPresented
    | first :: _ =>
      if (ofDer? first).isNone then some (.invalidCertificate .badEncoding)
      else if first = key then none
      else some .inconsistentKeys

def rules : CertificateRules :=
  ⟨anchorFault?, identityFault?⟩

end Certificate

end RecordLayer.Symbolic
