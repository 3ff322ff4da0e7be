import GtpControl.Element.Value
import GtpControl.Value.Apn
import GtpControl.Value.EndUserAddress

/-! # Elements of GTPv0 -/
namespace GtpControl.Element.V0
open Catalog.V0

def ofPayload (type : UInt8) (payload : Octets) : Element := plain .v0 type 0 payload

def ofCause (cause : UInt8) : Element := ofPayload Code.cause [cause]

def cause : Element → Coded UInt8 := readUInt8 Code.cause

def ofImsi (imsi : String) : Coded Element := return ofPayload Code.imsi (← paddedImsi imsi)

def imsi : Element → Coded String := readDigits Code.imsi 8

def ofRecovery (counter : UInt8) : Element := ofPayload Code.recovery [counter]

def recovery : Element → Coded UInt8 := readUInt8 Code.recovery

/-- The six spare bits are set. -/
def ofSelectionMode (mode : UInt8) : Element := ofPayload Code.selectionMode [0xfc ||| (mode &&& 3)]

def selectionMode (element : Element) : Coded UInt8 :=
  return (← element.readUInt8 Code.selectionMode) &&& 3

def ofFlowLabelData (label : UInt16) : Element :=
  ofPayload Code.flowLabelDataI (Octets.ofUInt16 label)

def ofFlowLabelSignalling (label : UInt16) : Element :=
  ofPayload Code.flowLabelSignalling (Octets.ofUInt16 label)

/-- The label of either kind of flow label. -/
def flowLabel (element : Element) : Coded UInt16 :=
  if element.type = Code.flowLabelDataI ∨ element.type = Code.flowLabelSignalling then
    element.readUInt16 element.type
  else throw (.invalidType element.type)

def ofQosProfile (delay precedence throughput : UInt8) : Element :=
  ofPayload Code.qosProfile [delay, precedence, throughput]

def qosProfile (element : Element) : Coded (UInt8 × UInt8 × UInt8) := do
  match ← element.expect Code.qosProfile with
  | a :: b :: c :: _ => pure (a, b, c)
  | payload => throw (.tooShort 3 payload.length)

def ofChargingId (id : UInt32) : Element := ofPayload Code.chargingId (Octets.ofUInt32 id)

def chargingId : Element → Coded UInt32 := readUInt32 Code.chargingId

/-- Asks for an address of the given type. -/
def ofDynamicAddress (pdpType : UInt8) : Element :=
  ofPayload Code.endUserAddress (EndUserAddress.encode none pdpType)

def ofEndUserAddress (address : IpAddress) : Element :=
  ofPayload Code.endUserAddress (EndUserAddress.encode (some address) 0)

def endUserAddress (element : Element) : Coded (Option IpAddress) := do
  EndUserAddress.decode (← element.expect Code.endUserAddress)

def ofApn (apn : String) : Coded Element := return ofPayload Code.accessPointName (← Apn.encode apn)

def apn (element : Element) : Coded String := do
  Apn.decode (← element.expect Code.accessPointName)

def ofGsnAddress (address : IpAddress) : Element := ofPayload Code.gsnAddress address.octets

def gsnAddress (element : Element) : Coded IpAddress := do
  IpAddress.decode (← element.expect Code.gsnAddress)

def ofMsisdn (msisdn : String) : Coded Element :=
  return ofPayload Code.msisdn (internationalNumber :: (← Tbcd.encode msisdn))

def msisdn : Element → Coded String := readMsisdn Code.msisdn

def ofPrivateExtension (id : UInt16) (value : Octets) : Element :=
  ofPayload Code.privateExtension (Octets.ofUInt16 id ++ value)

def privateExtension : Element → Coded (UInt16 × Octets) := readExtension Code.privateExtension

end GtpControl.Element.V0
