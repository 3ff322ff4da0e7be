import GtpControl.Session.TeidPool
import GtpControl.Version

/-! # Settings of an endpoint -/
namespace GtpControl.Endpoint

structure Settings where
  /-- how long a request waits for its reply, in milliseconds -/
  responseTimeout : UInt64 := 3000
  lengthPolicy : LengthPolicy := .strict
  /-- counter of restarts that echo responses show -/
  recovery : UInt8 := 0
  teidRange : TeidRange := {}
  eventCapacity : UInt64 := 256
  /-- the most octets of a datagram that are looked at -/
  bufferSize : UInt64 := 65535
deriving DecidableEq, Repr, Inhabited

end GtpControl.Endpoint
