import GtpControl.Session.Bindings
import GtpControl.Value.Address
import GtpControl.Value.Qos

/-! # Bearers: the channels of a session -/
namespace GtpControl

structure Bearer where
  /-- zero until one is assigned -/
  ebi : UInt8 := 0
  apn : String := ""
  qos : Qos := {}
  chargingId : UInt32 := 0
  subscriberIp : Option IpAddress := none
  teids : TeidMap := {}
deriving DecidableEq, Repr, Inhabited

def Bearer.setTeid (interface : UInt8) (teid : UInt32) (bearer : Bearer) : Bearer :=
  { bearer with teids := bearer.teids.insert interface teid }

end GtpControl
