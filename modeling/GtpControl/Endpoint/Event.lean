import GtpControl.Catalog
import GtpControl.Value.AddressText

/-! # What an endpoint tells those who watch it -/
namespace GtpControl

inductive LogLevel where
  | trace | debug | info | warn | error
deriving DecidableEq, Repr

def LogLevel.label : LogLevel → String
  | .trace => "TRACE"
  | .debug => "DEBUG"
  | .info => "INFO"
  | .warn => "WARN"
  | .error => "ERROR"

/-- Incidents that an endpoint reports. -/
inductive Event where
  | started (address : SocketAddress)
  | stopped
  /-- a datagram was dropped -/
  | parseFailed (peer : SocketAddress) (reason : String)
  | handlerFailed (peer : SocketAddress) (type : UInt8) (reason : String)
  /-- nothing handles messages of the type -/
  | unhandled (peer : SocketAddress) (type : UInt8)
  | duplicateReply (peer : SocketAddress) (type : UInt8) (sequence : UInt32)
deriving DecidableEq, Repr

/-- The line in the log of the endpoint with the given address. -/
def Event.logLine (address : SocketAddress) : Event → LogLevel × String
  | .started bound => (.info, s!"Serving on {bound.toText}")
  | .stopped => (.info, s!"Stopped serving on {address.toText}")
  | .parseFailed peer reason =>
    (.warn, s!"Dropped undecodable datagram from {peer.toText}: {reason}")
  | .handlerFailed peer type reason =>
    (.warn, s!"Handler for {Version.v2.messageName type} from {peer.toText} failed: {reason}")
  | .unhandled peer type =>
    (.debug, s!"No handler for {Version.v2.messageName type} from {peer.toText}")
  | .duplicateReply peer type sequence =>
    (.debug, s!"Duplicate {Version.v2.messageName type} from {peer.toText} (sequence {sequence})")

end GtpControl
