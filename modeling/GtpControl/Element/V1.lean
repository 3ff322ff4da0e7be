import GtpControl.Element.Value
import GtpControl.Value.Apn
import GtpControl.Value.EndUserAddress

/-! # Elements of GTPv1-C -/
namespace GtpControl.Element.V1
open Catalog.V1

def ofPayload (type : UInt8) (payload : Octets) : Element := plain .v1 type 0 payload

def ofCause (cause : UInt8) : Element := ofPayload Code.cause [cause]

def cause : Element → Coded UInt8 := readUInt8 Code.cause

def ofImsi (imsi : String) : Coded Element := return ofPayload Code.imsi (← paddedImsi imsi)

def imsi : Element → Coded String := readDigits Code.imsi 8

def ofRecovery (counter : UInt8) : Element := ofPayload Code.recovery [counter]

def recovery : Element → Coded UInt8 := readUInt8 Code.recovery

/-- The six spare bits are set. -/
def ofSelectionMode (mode : UInt8) : Element := ofPayload Code.selectionMode [0xfc ||| (mode &&& 3)]

def selectionMode (element : Element) : Coded UInt8 :=
  return (← element.readUInt8 Code.selectionMode) &&& 3

def ofDataTeid (teid : UInt32) : Element := ofPayload Code.teidDataI (Octets.ofUInt32 teid)

def ofControlTeid (teid : UInt32) : Element := ofPayload Code.teidCPlane (Octets.ofUInt32 teid)

/-- The tunnel end point of any of the three kinds; the second data tunnel names its access point
first. -/
def teid (element : Element) : Coded UInt32 :=
  if element.type = Code.teidDataI ∨ element.type = Code.teidCPlane then
    element.readUInt32 element.type
  else if element.type = Code.teidDataIi then
    match element.payload with
    | _ :: a :: b :: c :: d :: _ => pure (Octets.uint32 [a, b, c, d])
    | payload => throw (.tooShort 5 payload.length)
  else throw (.invalidType element.type)

def ofNsapi (nsapi : UInt8) : Element := ofPayload Code.nsapi [nsapi &&& 0x0f]

def nsapi (element : Element) : Coded UInt8 := return (← element.readUInt8 Code.nsapi) &&& 0x0f

/-- A truth value in the last bit, all others set. -/
def flagOctet (flag : Bool) : UInt8 := if flag then 0xff else 0xfe

def ofTeardown (teardown : Bool) : Element := ofPayload Code.teardownInd [flagOctet teardown]

def teardown (element : Element) : Coded Bool :=
  return (← element.readUInt8 Code.teardownInd) &&& 1 != 0

def ofReordering (required : Bool) : Element :=
  ofPayload Code.reorderingRequired [flagOctet required]

def reordering (element : Element) : Coded Bool :=
  return (← element.readUInt8 Code.reorderingRequired) &&& 1 != 0

def ofChargingId (id : UInt32) : Element := ofPayload Code.chargingId (Octets.ofUInt32 id)

def chargingId : Element → Coded UInt32 := readUInt32 Code.chargingId

def ofChargingCharacteristics (value : UInt16) : Element :=
  ofPayload Code.chargingCharacteristics (Octets.ofUInt16 value)

/-- Asks for an address of the given type. -/
def ofDynamicAddress (pdpType : UInt8) : Element :=
  ofPayload Code.endUserAddress (EndUserAddress.encode none pdpType)

def ofEndUserAddress (address : IpAddress) : Element :=
  ofPayload Code.endUserAddress (EndUserAddress.encode (some address) 0)

def endUserAddress (element : Element) : Coded (Option IpAddress) := do
  EndUserAddress.decode (← element.expect Code.endUserAddress)

def ofApn (apn : String) : Coded Element := return ofPayload Code.accessPointName (← Apn.encode apn)

def apn (element : Element) : Coded String := do
  Apn.decode (← element.expect Code.accessPointName)

def ofGsnAddress (address : IpAddress) : Element := ofPayload Code.gsnAddress address.octets

def gsnAddress (element : Element) : Coded IpAddress := do
  IpAddress.decode (← element.expect Code.gsnAddress)

def ofChargingGatewayAddress (address : IpAddress) : Element :=
  ofPayload Code.chargingGatewayAddress address.octets

def ofMsisdn (msisdn : String) : Coded Element :=
  return ofPayload Code.msisdn (internationalNumber :: (← Tbcd.encode msisdn))

def msisdn : Element → Coded String := readMsisdn Code.msisdn

/-- Allocation and retention priority, then the profile. -/
def ofQosProfile (priority : UInt8) (profile : Octets) : Element :=
  ofPayload Code.qosProfile (priority :: profile)

def qosPriority : Element → Coded UInt8 := readUInt8 Code.qosProfile

def ofPrivateExtension (id : UInt16) (value : Octets) : Element :=
  ofPayload Code.privateExtension (Octets.ofUInt16 id ++ value)

def privateExtension : Element → Coded (UInt16 × Octets) := readExtension Code.privateExtension

end GtpControl.Element.V1
