import RecordLayer.Error.Engine

/-!
# Errors of the library

Three causes belong to the building of a context and two to a live connection. A failed read is the
unexpected end of the stream, a failed extraction a failed connection; both carry the engine error
that came first.
-/

namespace RecordLayer

/-- Why a configuration is no use. -/
inductive ConfigFault where
  /-- A cipher list that names something and selects nothing. -/
  | noUsableCipherSuite (requested : List String)
  | other (reason : String)
  deriving DecidableEq

def ConfigFault.message : ConfigFault → String
  | noUsableCipherSuite requested =>
    "ssl_cipher_list 中没有可用的密码套件: " ++ ",".intercalate requested
  | other reason => reason

/-- Why no verifier of client certificates can be built. -/
inductive VerifierFault where
  | noTrustAnchors
  deriving DecidableEq

def VerifierFault.message : VerifierFault → String
  | noTrustAnchors => "no root trust anchors were provided"

inductive Error where
  | config (fault : ConfigFault)
  | tls (source : ProtocolError)
  | clientVerifier (source : VerifierFault)
  | connectionFailed (source : EngineError)
  | unexpectedEof (source : EngineError)
  deriving DecidableEq

namespace Error

def code : Error → String
  | config _ => "spark.minissl.config_invalid"
  | tls _ => "spark.minissl.config_rejected"
  | clientVerifier _ => "spark.minissl.client_verifier_invalid"
  | connectionFailed _ => "spark.minissl.connection_failed"
  | unexpectedEof _ => "spark.minissl.unexpected_eof"

/-- A connection that met the error is of no further use. -/
def isFatal : Error → Bool
  | connectionFailed _ | unexpectedEof _ => true
  | config _ | tls _ | clientVerifier _ => false

def category : Error → Category
  | config _ | tls _ | clientVerifier _ => .configuration
  | connectionFailed source | unexpectedEof source => source.category

def message : Error → String
  | config fault => "TLS 配置无效: " ++ fault.message
  | tls source => "TLS 配置被引擎拒绝: " ++ source.message
  | clientVerifier source => "客户端证书校验器构建失败: " ++ source.message
  | connectionFailed source => "TLS 连接失败: " ++ source.message
  | unexpectedEof source => "TLS 流意外结束: " ++ source.message

/-- The texts of the causes behind the error, nearest first. -/
def causes : Error → List String
  | config _ => []
  | tls source => [source.message]
  | clientVerifier source => [source.message]
  | connectionFailed source | unexpectedEof source => source.message :: source.causes

end Error

end RecordLayer
