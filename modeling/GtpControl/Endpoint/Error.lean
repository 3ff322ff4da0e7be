import GtpControl.CodecError
import GtpControl.Session.Error

/-! # Why an operation of an endpoint fails -/
namespace GtpControl

inductive EndpointError where
  | io (reason : String)
  | bind (address : SocketAddress) (reason : String)
  | notListening
  | alreadyListening
  | codec (error : CodecError)
  | session (error : SessionError)
  /-- no reply to the message came in time -/
  | timeout (message : String) (sequence : UInt32)
  | cancelled
  | causeNotAccepted (message : String) (cause : UInt8)
  | unexpectedResponse (expected got : String)
  | missingElement (type : UInt8)
  | handler (reason : String)
deriving DecidableEq, Repr

namespace EndpointError

def message : EndpointError → String
  | .io reason => s!"IO error: {reason}"
  | .bind address reason => s!"Failed to bind {address.toText}: {reason}"
  | .notListening => "Not listening"
  | .alreadyListening => "Already listening"
  | .codec error => s!"Codec error: {error.message}"
  | .session error => s!"Session error: {error.message}"
  | .timeout request sequence =>
    s!"Timed out waiting for a reply to {request} (sequence {sequence})"
  | .cancelled => "Cancelled"
  | .causeNotAccepted request cause => s!"{request} rejected with cause {cause}"
  | .unexpectedResponse expected got => s!"Unexpected response: expected {expected}, got {got}"
  | .missingElement type => s!"Required IE missing: type {type}"
  | .handler reason => s!"Handler error: {reason}"

/-- What the error goes back to, where that is an error of its own. -/
def origin? : EndpointError → Option String
  | .io reason | .bind _ reason => some reason
  | .codec error => some error.message
  | .session error => some error.message
  | _ => none

end EndpointError
end GtpControl
