/-! # Kinds of messages -/
namespace GtpControl

/-- What a message is about, as far as its elements have named places; all others are generic. -/
inductive Kind where
  | echoRequest | echoResponse | nodeAliveRequest | nodeAliveResponse | createPdpContextRequest
  | createPdpContextResponse | deletePdpContextRequest | deletePdpContextResponse
  | createSessionRequest | createSessionResponse | modifyBearerRequest | modifyBearerResponse
  | deleteSessionRequest | deleteSessionResponse | contextRequest | releaseAccessBearersRequest
  | releaseAccessBearersResponse | dataRecordTransferRequest | dataRecordTransferResponse
  | generic
deriving DecidableEq, Repr

namespace Kind

/-- The message type, which is the same in every version that has the kind. -/
def type? : Kind → Option UInt8
  | .echoRequest => some 1
  | .echoResponse => some 2
  | .nodeAliveRequest => some 4
  | .nodeAliveResponse => some 5
  | .createPdpContextRequest => some 16
  | .createPdpContextResponse => some 17
  | .deletePdpContextRequest => some 20
  | .deletePdpContextResponse => some 21
  | .createSessionRequest => some 32
  | .createSessionResponse => some 33
  | .modifyBearerRequest => some 34
  | .modifyBearerResponse => some 35
  | .deleteSessionRequest => some 36
  | .deleteSessionResponse => some 37
  | .contextRequest => some 130
  | .releaseAccessBearersRequest => some 170
  | .releaseAccessBearersResponse => some 171
  | .dataRecordTransferRequest => some 240
  | .dataRecordTransferResponse => some 241
  | .generic => none

/-- The name in listings of a message. -/
def label : Kind → String
  | .echoRequest => "EchoRequest"
  | .echoResponse => "EchoResponse"
  | .nodeAliveRequest => "NodeAliveRequest"
  | .nodeAliveResponse => "NodeAliveResponse"
  | .createPdpContextRequest => "CreatePdpContextRequest"
  | .createPdpContextResponse => "CreatePdpContextResponse"
  | .deletePdpContextRequest => "DeletePdpContextRequest"
  | .deletePdpContextResponse => "DeletePdpContextResponse"
  | .createSessionRequest => "CreateSessionRequest"
  | .createSessionResponse => "CreateSessionResponse"
  | .modifyBearerRequest => "ModifyBearerRequest"
  | .modifyBearerResponse => "ModifyBearerResponse"
  | .deleteSessionRequest => "DeleteSessionRequest"
  | .deleteSessionResponse => "DeleteSessionResponse"
  | .contextRequest => "ContextRequest"
  | .releaseAccessBearersRequest => "ReleaseAccessBearersRequest"
  | .releaseAccessBearersResponse => "ReleaseAccessBearersResponse"
  | .dataRecordTransferRequest => "DataRecordTransferRequest"
  | .dataRecordTransferResponse => "DataRecordTransferResponse"
  | .generic => "Generic"

end Kind
end GtpControl
