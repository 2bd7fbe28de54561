import RecordLayer.Version

/-!
# Cipher suites

A cipher suite belongs to one protocol version. The suites of TLS 1.2 also fix the kind of key that
the server signs with.
-/

namespace RecordLayer

/-- The kind of signing key that a suite asks of the server. -/
inductive Authentication where
  | any
  | ecdsa
  | rsa
  deriving DecidableEq

/-- How a suite protects records. -/
inductive BulkCipher where
  | aesGcm
  | chacha20Poly1305
  deriving DecidableEq

/-- The hash that a suite makes its keys with. -/
inductive HashAlgorithm where
  | sha256
  | sha384
  deriving DecidableEq

/-- The number of bytes of a hash. -/
def HashAlgorithm.length : HashAlgorithm → Nat
  | sha256 => 32
  | sha384 => 48

structure CipherSuite where
  name : String
  /-- The registered two-byte number. -/
  code : Nat
  version : TlsVersion
  authentication : Authentication
  bulk : BulkCipher
  hash : HashAlgorithm
  deriving DecidableEq

namespace CipherSuite

/-- The suites that both backends offer, in their order of preference. -/
def standard : List CipherSuite :=
  [⟨"TLS13_AES_256_GCM_SHA384", 0x1302, .tls13, .any, .aesGcm, .sha384⟩,
   ⟨"TLS13_AES_128_GCM_SHA256", 0x1301, .tls13, .any, .aesGcm, .sha256⟩,
   ⟨"TLS13_CHACHA20_POLY1305_SHA256", 0x1303, .tls13, .any, .chacha20Poly1305, .sha256⟩,
   ⟨"TLS_ECDHE_ECDSA_WITH_AES_256_GCM_SHA384", 0xc02c, .tls12, .ecdsa, .aesGcm, .sha384⟩,
   ⟨"TLS_ECDHE_ECDSA_WITH_AES_128_GCM_SHA256", 0xc02b, .tls12, .ecdsa, .aesGcm, .sha256⟩,
   ⟨"TLS_ECDHE_ECDSA_WITH_CHACHA20_POLY1305_SHA256", 0xcca9, .tls12, .ecdsa,
     .chacha20Poly1305, .sha256⟩,
   ⟨"TLS_ECDHE_RSA_WITH_AES_256_GCM_SHA384", 0xc030, .tls12, .rsa, .aesGcm, .sha384⟩,
   ⟨"TLS_ECDHE_RSA_WITH_AES_128_GCM_SHA256", 0xc02f, .tls12, .rsa, .aesGcm, .sha256⟩,
   ⟨"TLS_ECDHE_RSA_WITH_CHACHA20_POLY1305_SHA256", 0xcca8, .tls12, .rsa,
     .chacha20Poly1305, .sha256⟩]

def ofName? (name : String) : Option CipherSuite :=
  standard.find? (·.name == name)

def ofCode? (code : Nat) : Option CipherSuite :=
  standard.find? (·.code == code)

end CipherSuite

end RecordLayer
