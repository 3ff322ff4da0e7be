import GtpControl.Element.Value
import GtpControl.Value.EndUserAddress

/-! # Elements of GTP' -/
namespace GtpControl

/-- Charging records in a common encoding. -/
structure DataRecordPacket where
  format : UInt8
  formatVersion : UInt16
  records : List Octets
deriving DecidableEq, Repr

namespace DataRecordPacket

def encodeRecord (record : Octets) : Coded Octets := return (← lengthField record.length) ++ record

/-- The records are counted in one octet, and each goes after its length. -/
def encode (packet : DataRecordPacket) : Coded Octets := do
  if 255 < packet.records.length then throw (.malformed (.recordCount packet.records.length))
  let records ← packet.records.mapM encodeRecord
  return UInt8.ofNat packet.records.length :: packet.format
    :: Octets.ofUInt16 packet.formatVersion ++ records.flatten

/-- The given number of records; octets after them are ignored. -/
def decodeRecords : (count : Nat) → Octets → Coded (List Octets)
  | 0, _ => pure []
  | count + 1, a :: b :: rest =>
    match Octets.split? (Octets.toNat [a, b]) rest with
    | none => throw (.invalidLength (Octets.toNat [a, b]) rest.length)
    | some (record, rest) => return record :: (← decodeRecords count rest)
  | _ + 1, rest => throw (.tooShort 2 rest.length)

def decode : Octets → Coded DataRecordPacket
  | count :: format :: a :: b :: rest => do
    return ⟨format, Octets.uint16 [a, b], ← decodeRecords count.toNat rest⟩
  | octets => throw (.tooShort 4 octets.length)

end DataRecordPacket

namespace Element.Prime
open Catalog.Prime

def ofPayload (type : UInt8) (payload : Octets) : Element := plain .prime type 0 payload

def ofCause (cause : UInt8) : Element := ofPayload Code.cause [cause]

def cause : Element → Coded UInt8 := readUInt8 Code.cause

def ofRecovery (counter : UInt8) : Element := ofPayload Code.recovery [counter]

def recovery : Element → Coded UInt8 := readUInt8 Code.recovery

def ofPacketTransferCommand (command : UInt8) : Element :=
  ofPayload Code.packetTransferCommand [command]

def packetTransferCommand : Element → Coded UInt8 := readUInt8 Code.packetTransferCommand

def ofDataRecordPacket (packet : DataRecordPacket) : Coded Element := do
  make .prime Code.dataRecordPacket 0 (← packet.encode)

def dataRecordPacket (element : Element) : Coded DataRecordPacket := do
  DataRecordPacket.decode (← element.expect Code.dataRecordPacket)

def ofSequences (type : UInt8) (sequences : List UInt16) : Element :=
  ofPayload type (sequences.flatMap Octets.ofUInt16)

def ofReleasedPackets : List UInt16 → Element := ofSequences Code.sequenceNumbersOfReleasedPackets

def ofCancelledPackets : List UInt16 → Element :=
  ofSequences Code.sequenceNumbersOfCancelledPackets

def ofRequestsResponded : List UInt16 → Element := ofSequences Code.requestsResponded

/-- Numbers of two octets each, none when an octet is left over. -/
def sequences? : Octets → Option (List UInt16)
  | [] => some []
  | [_] => none
  | a :: b :: rest => (sequences? rest).map (Octets.uint16 [a, b] :: ·)

/-- The numbers of any of the three kinds of list. -/
def sequenceNumbers (element : Element) : Coded (List UInt16) :=
  if element.type = Code.sequenceNumbersOfReleasedPackets
      ∨ element.type = Code.sequenceNumbersOfCancelledPackets
      ∨ element.type = Code.requestsResponded then
    match sequences? element.payload with
    | some numbers => pure numbers
    | none => throw (.malformed (.oddSequenceList element.payload.length))
  else throw (.invalidType element.type)

def ofNodeAddress (address : IpAddress) : Element :=
  ofPayload Code.chargingGatewayAddress address.octets

def ofRecommendedNode (address : IpAddress) : Element :=
  ofPayload Code.addressOfRecommendedNode address.octets

/-- The address of either kind of node. -/
def nodeAddress (element : Element) : Coded IpAddress :=
  if element.type = Code.chargingGatewayAddress ∨ element.type = Code.addressOfRecommendedNode then
    IpAddress.decode element.payload
  else throw (.invalidType element.type)

def ofPrivateExtension (id : UInt16) (value : Octets) : Element :=
  ofPayload Code.privateExtension (Octets.ofUInt16 id ++ value)

def privateExtension : Element → Coded (UInt16 × Octets) := readExtension Code.privateExtension

end Element.Prime
end GtpControl
