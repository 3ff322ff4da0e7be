import GtpControl.Element.Prime
import GtpControl.Element.V0
import GtpControl.Element.V1
import GtpControl.Element.V2

/-! # Readings: all that can be read out of an element, by name -/
namespace GtpControl

/-- A value that an element holds. -/
inductive Reading where
  | absent
  | number (n : Nat)
  | numbers (numbers : List Nat)
  | text (text : String)
  | flag (flag : Bool)
  | octets (octets : Octets)
  | address (address : IpAddress)
  | network (plmn : Plmn)
  | extension (id : UInt16) (value : Octets)
  | packet (packet : DataRecordPacket)
deriving DecidableEq, Repr

namespace Reading

/-- A named way of reading an element, which fails on elements of other types. -/
structure Reader where
  name : String
  read : Element → Coded Reading

def ofOption {α : Type} (reading : α → Reading) (value : Option α) : Reading :=
  (value.map reading).getD .absent

def uint8 (name : String) (read : Element → Coded UInt8) : Reader :=
  ⟨name, fun element => return .number (← read element).toNat⟩

def uint16 (name : String) (read : Element → Coded UInt16) : Reader :=
  ⟨name, fun element => return .number (← read element).toNat⟩

def uint32 (name : String) (read : Element → Coded UInt32) : Reader :=
  ⟨name, fun element => return .number (← read element).toNat⟩

def string (name : String) (read : Element → Coded String) : Reader :=
  ⟨name, fun element => return .text (← read element)⟩

def bool (name : String) (read : Element → Coded Bool) : Reader :=
  ⟨name, fun element => return .flag (← read element)⟩

def ip (name : String) (read : Element → Coded IpAddress) : Reader :=
  ⟨name, fun element => return .address (← read element)⟩

def ip? (name : String) (read : Element → Coded (Option IpAddress)) : Reader :=
  ⟨name, fun element => return ofOption .address (← read element)⟩

def privateExtension (name : String) (read : Element → Coded (UInt16 × Octets)) : Reader :=
  ⟨name, fun element => do
    let (id, value) ← read element
    return .extension id value⟩

section
open Element

def readersV0 : List Reader := [
  uint8 "cause" V0.cause,
  string "imsi" V0.imsi,
  uint8 "recovery" V0.recovery,
  uint8 "selection_mode" V0.selectionMode,
  uint16 "flow_label" V0.flowLabel,
  ⟨"qos_profile", fun element => do
    let (delay, precedence, throughput) ← V0.qosProfile element
    return .numbers [delay.toNat, precedence.toNat, throughput.toNat]⟩,
  uint32 "charging_id" V0.chargingId,
  ip? "end_user_address" V0.endUserAddress,
  string "apn" V0.apn,
  ip "gsn_address" V0.gsnAddress,
  string "msisdn" V0.msisdn,
  privateExtension "private_extension" V0.privateExtension]

def readersV1 : List Reader := [
  uint8 "cause" V1.cause,
  string "imsi" V1.imsi,
  uint8 "recovery" V1.recovery,
  uint8 "selection_mode" V1.selectionMode,
  uint32 "teid" V1.teid,
  uint8 "nsapi" V1.nsapi,
  bool "teardown_ind" V1.teardown,
  bool "reordering_required" V1.reordering,
  uint32 "charging_id" V1.chargingId,
  ip? "end_user_address" V1.endUserAddress,
  string "apn" V1.apn,
  ip "gsn_address" V1.gsnAddress,
  string "msisdn" V1.msisdn,
  uint8 "qos_arp" V1.qosPriority,
  privateExtension "private_extension" V1.privateExtension]

def readersV2 : List Reader := [
  string "imsi" V2.imsi,
  uint8 "cause" V2.cause,
  ⟨"offending_ie_type", fun element =>
    return ofOption (fun type => .number type.toNat) (← V2.offendingType element)⟩,
  bool "is_remote_cause" V2.isRemoteCause,
  uint8 "recovery" V2.recovery,
  string "apn" V2.apn,
  ⟨"ambr", fun element => do
    let (uplink, downlink) ← V2.ambr element
    return .numbers [uplink.toNat, downlink.toNat]⟩,
  uint8 "ebi" V2.ebi,
  string "mei" V2.mei,
  string "msisdn" V2.msisdn,
  ⟨"indication_flags", fun element => return .octets (← V2.indicationFlags element)⟩,
  ip "pdn_address" V2.pdnAddress,
  uint8 "rat_type" V2.ratType,
  uint8 "pdn_type" V2.pdnType,
  uint8 "selection_mode" V2.selectionMode,
  uint8 "apn_restriction" V2.apnRestriction,
  ⟨"serving_network", fun element => return .network (← V2.servingNetwork element)⟩,
  uint8 "interface_type" V2.interfaceType,
  uint32 "teid" V2.teid,
  ip? "fteid_ipv4" fun element => return (← V2.fteidV4 element).map .v4,
  ip? "fteid_ipv6" fun element => return (← V2.fteidV6 element).map .v6,
  uint8 "qci" V2.qci,
  uint8 "priority_level" V2.priorityLevel,
  uint32 "charging_id" V2.chargingId,
  uint32 "ptmsi" V2.ptmsi,
  uint32 "ptmsi_signature" V2.ptmsiSignature,
  privateExtension "private_extension" V2.privateExtension]

def readersPrime : List Reader := [
  uint8 "cause" Prime.cause,
  uint8 "recovery" Prime.recovery,
  uint8 "packet_transfer_command" Prime.packetTransferCommand,
  ⟨"data_record_packet", fun element => return .packet (← Prime.dataRecordPacket element)⟩,
  ⟨"sequence_numbers", fun element =>
    return .numbers ((← Prime.sequenceNumbers element).map UInt16.toNat)⟩,
  ip "node_address" Prime.nodeAddress,
  privateExtension "private_extension" Prime.privateExtension]

end

end Reading

/-- All readers of a version's elements. -/
def Version.readers : Version → List Reading.Reader
  | .v0 => Reading.readersV0
  | .v1 => Reading.readersV1
  | .v2 => Reading.readersV2
  | .prime => Reading.readersPrime

/-- What an element holds, or why it cannot be read, leaving out what its type does not have. -/
def Element.readings (version : Version) (element : Element) : List (String × Coded Reading) :=
  (version.readers.map fun reader => (reader.name, reader.read element)).filter fun (_, result) =>
    match result with
    | .error (.invalidType type) => type != element.type
    | _ => true

end GtpControl
