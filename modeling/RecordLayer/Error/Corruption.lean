import RecordLayer.Alert

/-!
# Corruptions

How bytes on the wire fail to be what they claim to be: a record whose header is wrong, or a message
whose fields do not fill it exactly. `Corruption.alert` is what the sender is told.
-/

namespace RecordLayer

/-- How a record or a message on the wire is malformed. -/
inductive Corruption where
  | invalidContentType
  | unknownProtocolVersion
  | emptyPayload
  | messageTooLarge
  | changeCipherSpec
  | missingData (field : String)
  | trailingData (message : String)
  /-- A field is longer than the message that holds it. -/
  | messageTooShort
  | illegalEmptyList (list : String)
  | illegalEmptyValue
  | handshakePayloadTooLarge
  | certificatePayloadTooLarge
  | certificateStatusType
  | serverName
  | noSignatureSchemes
  | emptyTicket
  | unsupportedCompression
  | keyExchangeParameters
  /-- A message that never stands on the wire. -/
  | unexpectedMessage (message : String)
  | duplicateExtension (code : Nat)
  | preSharedKeyNotLast
  | unknownRetryExtension
  | unknownCertificateExtension
  deriving DecidableEq

namespace Corruption

def name : Corruption → String
  | invalidContentType => "InvalidContentType"
  | unknownProtocolVersion => "UnknownProtocolVersion"
  | emptyPayload => "InvalidEmptyPayload"
  | messageTooLarge => "MessageTooLarge"
  | changeCipherSpec => "InvalidCcs"
  | missingData field => "MissingData(\"" ++ field ++ "\")"
  | trailingData message => "TrailingData(\"" ++ message ++ "\")"
  | messageTooShort => "MessageTooShort"
  | illegalEmptyList list => "IllegalEmptyList(\"" ++ list ++ "\")"
  | illegalEmptyValue => "IllegalEmptyValue"
  | handshakePayloadTooLarge => "HandshakePayloadTooLarge"
  | certificatePayloadTooLarge => "CertificatePayloadTooLarge"
  | certificateStatusType => "InvalidCertificateStatusType"
  | serverName => "InvalidServerName"
  | noSignatureSchemes => "NoSignatureSchemes"
  | emptyTicket => "EmptyTicketValue"
  | unsupportedCompression => "UnsupportedCompression"
  | keyExchangeParameters => "InvalidDhParams"
  | unexpectedMessage message => "UnexpectedMessage(\"" ++ message ++ "\")"
  | duplicateExtension code => "DuplicateExtension(" ++ toString code ++ ")"
  | preSharedKeyNotLast => "PreSharedKeyIsNotFinalExtension"
  | unknownRetryExtension => "UnknownHelloRetryRequestExtension"
  | unknownCertificateExtension => "UnknownCertificateExtension"

/-- The alert that answers a corruption. -/
def alert : Corruption → Alert
  | duplicateExtension _ | preSharedKeyNotLast => .illegalParameter
  | unknownRetryExtension => .unsupportedExtension
  | certificatePayloadTooLarge => .badCertificate
  | _ => .decodeError

end Corruption

end RecordLayer
