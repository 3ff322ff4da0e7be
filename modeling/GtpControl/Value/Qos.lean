import GtpControl.Octets

/-! # Bearer level quality of service -/
namespace GtpControl

/-- Class, allocation priority and bit rates of a bearer; the rates are in kbit/s. -/
structure Qos where
  qci : UInt8 := 0
  /-- from 1, the highest, to 15 -/
  priorityLevel : UInt8 := 0
  preemptionCapability : Bool := false
  preemptionVulnerability : Bool := false
  mbrUplink : UInt64 := 0
  mbrDownlink : UInt64 := 0
  gbrUplink : UInt64 := 0
  gbrDownlink : UInt64 := 0
deriving DecidableEq, Repr, Inhabited

namespace Qos

/-- The pre-emption marks are set where pre-emption is not meant. -/
def encode (qos : Qos) : Octets :=
  let capability : UInt8 := if qos.preemptionCapability then 0 else 0x40
  let vulnerability : UInt8 := if qos.preemptionVulnerability then 0 else 0x01
  let priority := ((qos.priorityLevel &&& 0x0f) <<< 2) ||| capability ||| vulnerability
  priority :: qos.qci :: [qos.mbrUplink, qos.mbrDownlink, qos.gbrUplink, qos.gbrDownlink].flatMap
    fun rate => Octets.ofNat 5 rate.toNat

/-- The priority level in an allocation priority octet. -/
def levelOf (priority : UInt8) : UInt8 := (priority >>> 2) &&& 0x0f

/-- The rate at a place of the list of rates; one that is cut off is zero. -/
def rateAt (place : Nat) (rates : Octets) : UInt64 :=
  match Octets.split? 5 (rates.drop (5 * place)) with
  | some (rate, _) => Octets.uint64 rate
  | none => 0

def ofOctets (priority qci : UInt8) (rates : Octets) : Qos where
  qci
  priorityLevel := levelOf priority
  preemptionCapability := priority &&& 0x40 == 0
  preemptionVulnerability := priority &&& 0x01 == 0
  mbrUplink := rateAt 0 rates
  mbrDownlink := rateAt 1 rates
  gbrUplink := rateAt 2 rates
  gbrDownlink := rateAt 3 rates

end Qos
end GtpControl
