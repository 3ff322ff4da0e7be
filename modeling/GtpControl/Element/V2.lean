import GtpControl.Element.Group
import GtpControl.Element.Value
import GtpControl.Value.Address
import GtpControl.Value.Apn
import GtpControl.Value.Plmn
import GtpControl.Value.Qos

/-! # Elements of GTPv2-C -/
namespace GtpControl.Element.V2
open Catalog.V2

def ofPayload (type : UInt8) (payload : Octets) : Element := plain .v2 type 0 payload

/-! ## Subscriber and equipment -/

def ofImsi (imsi : String) : Coded Element := return ofPayload Code.imsi (← Tbcd.encode imsi)

def imsi : Element → Coded String := readDigits Code.imsi 1

def ofMei (mei : String) : Coded Element := return ofPayload Code.mei (← Tbcd.encode mei)

def mei : Element → Coded String := readDigits Code.mei 1

def ofMsisdn (msisdn : String) : Coded Element :=
  return ofPayload Code.msisdn (← Tbcd.encode msisdn)

def msisdn : Element → Coded String := readDigits Code.msisdn 1

/-! ## Cause -/

def ofCause (cause : UInt8) : Element := ofPayload Code.cause [cause, 0]

/-- A cause with its marks: the connection is in error, the bearer context is in error, the cause
comes from further away; and the element that is to blame. -/
def ofCauseWith (cause : UInt8) (connection bearer remote : Bool) (offending : Option Element) :
    Element :=
  let flags : UInt8 :=
    (if connection then 4 else 0) ||| (if bearer then 2 else 0) ||| (if remote then 1 else 0)
  let blame :=
    match offending with
    | some element => [element.type, 0, 0, element.inst]
    | none => []
  ofPayload Code.cause (cause :: flags :: blame)

def cause : Element → Coded UInt8 := readUInt8 Code.cause

def offendingType (element : Element) : Coded (Option UInt8) := do
  match ← element.expect Code.cause with
  | _ :: _ :: blame => pure blame.head?
  | payload => throw (.tooShort 2 payload.length)

def isRemoteCause (element : Element) : Coded Bool := do
  match ← element.expect Code.cause with
  | _ :: flags :: _ => pure (flags &&& 1 != 0)
  | payload => throw (.tooShort 2 payload.length)

/-! ## Node and access -/

def ofRecovery (counter : UInt8) : Element := ofPayload Code.recovery [counter]

def recovery : Element → Coded UInt8 := readUInt8 Code.recovery

def ofApn (apn : String) : Coded Element := return ofPayload Code.apn (← Apn.encode apn)

def apn (element : Element) : Coded String := do Apn.decode (← element.expect Code.apn)

/-- Uplink, then downlink, in kbit/s. -/
def ofAmbr (uplink downlink : UInt32) : Element :=
  ofPayload Code.ambr (Octets.ofUInt32 uplink ++ Octets.ofUInt32 downlink)

def ambr (element : Element) : Coded (UInt32 × UInt32) := do
  match ← element.expect Code.ambr with
  | a :: b :: c :: d :: e :: f :: g :: h :: _ =>
    pure (Octets.uint32 [a, b, c, d], Octets.uint32 [e, f, g, h])
  | payload => throw (.tooShort 8 payload.length)

def ofEbi (ebi : UInt8) : Element := ofPayload Code.ebi [ebi &&& 0x0f]

def ebi (element : Element) : Coded UInt8 := return (← element.readUInt8 Code.ebi) &&& 0x0f

def ofIndication (flags : Octets) : Element := ofPayload Code.indication flags

def indicationFlags : Element → Coded Octets := expect Code.indication

def ofRatType (type : UInt8) : Element := ofPayload Code.ratType [type]

def ratType : Element → Coded UInt8 := readUInt8 Code.ratType

def ofPdnType (type : UInt8) : Element := ofPayload Code.pdnType [type &&& 7]

def pdnType (element : Element) : Coded UInt8 := return (← element.readUInt8 Code.pdnType) &&& 7

def ofSelectionMode (mode : UInt8) : Element := ofPayload Code.selectionMode [mode &&& 3]

def selectionMode (element : Element) : Coded UInt8 :=
  return (← element.readUInt8 Code.selectionMode) &&& 3

def ofApnRestriction (restriction : UInt8) : Element := ofPayload Code.apnRestriction [restriction]

def apnRestriction : Element → Coded UInt8 := readUInt8 Code.apnRestriction

def ofServingNetwork (plmn : Plmn) : Coded Element :=
  return ofPayload Code.servingNetwork (← plmn.encode)

def servingNetwork (element : Element) : Coded Plmn := do
  Plmn.decode (← element.expect Code.servingNetwork)

def ofLocation (location : Octets) : Element := ofPayload Code.uli location

/-- Quarter hours from universal time, and the summer time mark. -/
def ofTimeZone (zone summer : UInt8) : Element := ofPayload Code.ueTimeZone [zone, summer &&& 3]

def ofNodeFeatures (features : UInt8) : Element := ofPayload Code.nodeFeatures [features]

/-! ## Address allocation -/

def ipv4Pdn : UInt8 := 1

def ipv6Pdn : UInt8 := 2

def dualPdn : UInt8 := 3

def ofPaaV4 (address : Ipv4Address) : Element := ofPayload Code.paa (ipv4Pdn :: address.octets)

/-- The size of the network part goes before the address. -/
def ofPaaV6 (networkBits : UInt8) (address : Ipv6Address) : Element :=
  ofPayload Code.paa (ipv6Pdn :: networkBits :: address.octets)

/-- The IPv4 address at the start of `octets`; `before` octets of the payload go before them. -/
def addressV4 (before : Nat) (octets : Octets) : Coded Ipv4Address :=
  match octets with
  | a :: b :: c :: d :: _ => pure ⟨a, b, c, d⟩
  | _ => throw (.tooShort (before + 4) (before + octets.length))

def addressV6 (before : Nat) (octets : Octets) : Coded Ipv6Address :=
  match Ipv6Address.ofOctets? (octets.take 16) with
  | some address => pure address
  | none => throw (.tooShort (before + 16) (before + octets.length))

/-- The allocated address; of two it is the IPv4 one, which goes last. -/
def pdnAddress (element : Element) : Coded IpAddress := do
  match ← element.expect Code.paa with
  | [] => throw (.tooShort 1 0)
  | first :: rest =>
    let type := first &&& 7
    if type = ipv4Pdn then return .v4 (← addressV4 1 rest)
    else if type = ipv6Pdn then
      match rest with
      | _ :: address => return .v6 (← addressV6 2 address)
      | [] => throw (.tooShort 18 1)
    else if type = dualPdn then
      match Octets.split? 17 rest with
      | some (_, address) => return .v4 (← addressV4 18 address)
      | none => throw (.tooShort 22 (1 + rest.length))
    else throw (.malformed (.pdnType type))

/-! ## Fully qualified tunnel end points -/

/-- An end point on an interface, with the addresses at which it is reached. -/
def ofFteid (interface : UInt8) (teid : UInt32) (v4 : Option Ipv4Address)
    (v6 : Option Ipv6Address) : Element :=
  let flags : UInt8 := (interface &&& 0x3f) ||| (if v4.isSome then 0x80 else 0)
    ||| (if v6.isSome then 0x40 else 0)
  ofPayload Code.fteid (flags :: Octets.ofUInt32 teid
    ++ (v4.map Ipv4Address.octets).getD [] ++ (v6.map Ipv6Address.octets).getD [])

/-- Flags, end point number and addresses. -/
def fteidParts (element : Element) : Coded (UInt8 × UInt32 × Octets) := do
  match ← element.expect Code.fteid with
  | flags :: a :: b :: c :: d :: addresses => pure (flags, Octets.uint32 [a, b, c, d], addresses)
  | payload => throw (.tooShort 5 payload.length)

def interfaceType (element : Element) : Coded UInt8 := return (← fteidParts element).1 &&& 0x3f

def teid (element : Element) : Coded UInt32 := return (← fteidParts element).2.1

def fteidV4 (element : Element) : Coded (Option Ipv4Address) := do
  let (flags, _, addresses) ← fteidParts element
  if flags &&& 0x80 = 0 then return none
  return some (← addressV4 5 addresses)

/-- The IPv6 address goes after the IPv4 one, if there is one. -/
def fteidV6 (element : Element) : Coded (Option Ipv6Address) := do
  let (flags, _, addresses) ← fteidParts element
  if flags &&& 0x40 = 0 then return none
  if flags &&& 0x80 = 0 then return some (← addressV6 5 addresses)
  match Octets.split? 4 addresses with
  | some (_, rest) => return some (← addressV6 9 rest)
  | none => throw (.tooShort 25 (5 + addresses.length))

/-! ## Bearers -/

def ofBearerContext (children : List Element) : Element := group .v2 Code.bearerContext 0 children

def ofBearerQos (qos : Qos) : Element := ofPayload Code.bearerQos qos.encode

def qci (element : Element) : Coded UInt8 := do
  match ← element.expect Code.bearerQos with
  | _ :: qci :: _ => pure qci
  | payload => throw (.tooShort 2 payload.length)

def priorityLevel (element : Element) : Coded UInt8 :=
  return Qos.levelOf (← element.readUInt8 Code.bearerQos)

/-- All of a bearer's quality of service. -/
def bearerQos (element : Element) : Coded Qos := do
  match ← element.expect Code.bearerQos with
  | priority :: qci :: rates => pure (Qos.ofOctets priority qci rates)
  | payload => throw (.tooShort 2 payload.length)

def ofChargingId (id : UInt32) : Element := ofPayload Code.chargingId (Octets.ofUInt32 id)

def chargingId : Element → Coded UInt32 := readUInt32 Code.chargingId

/-! ## Packet temporary identities -/

def ofPtmsi (ptmsi : UInt32) : Element := ofPayload Code.ptmsi (Octets.ofUInt32 ptmsi)

def ptmsi : Element → Coded UInt32 := readUInt32 Code.ptmsi

/-- Three octets of signature. -/
def ofPtmsiSignature (signature : UInt32) : Element :=
  ofPayload Code.ptmsiSignature (Octets.ofNat 3 signature.toNat)

def ptmsiSignature (element : Element) : Coded UInt32 := do
  match ← element.expect Code.ptmsiSignature with
  | a :: b :: c :: _ => pure (Octets.uint32 [a, b, c])
  | payload => throw (.tooShort 3 payload.length)

/-! ## Private extensions -/

def ofPrivateExtension (id : UInt16) (value : Octets) : Element :=
  ofPayload Code.privateExtension (Octets.ofUInt16 id ++ value)

def privateExtension : Element → Coded (UInt16 × Octets) := readExtension Code.privateExtension

end GtpControl.Element.V2
