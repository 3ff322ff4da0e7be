import GtpControl.Catalog.Entry

/-! # Message and element types of GTP' -/
namespace GtpControl.Catalog.Prime

def messages : List MessageEntry := [
  ⟨1, "Echo Request", false⟩,
  ⟨2, "Echo Response", true⟩,
  ⟨3, "Version Not Supported", true⟩,
  ⟨4, "Node Alive Request", false⟩,
  ⟨5, "Node Alive Response", true⟩,
  ⟨6, "Redirection Request", false⟩,
  ⟨7, "Redirection Response", true⟩,
  ⟨240, "Data Record Transfer Request", false⟩,
  ⟨241, "Data Record Transfer Response", true⟩]

def elements : List ElementEntry := [
  ⟨1, "Cause", .fixed 1⟩,
  ⟨14, "Recovery", .fixed 1⟩,
  ⟨126, "PacketTransferCommand", .fixed 1⟩,
  ⟨249, "SequenceNumbersOfReleasedPackets", .sized⟩,
  ⟨250, "SequenceNumbersOfCancelledPackets", .sized⟩,
  ⟨251, "ChargingGatewayAddress", .sized⟩,
  ⟨252, "DataRecordPacket", .sized⟩,
  ⟨253, "RequestsResponded", .sized⟩,
  ⟨254, "AddressOfRecommendedNode", .sized⟩,
  ⟨255, "PrivateExtension", .sized⟩]

/-! Element types that values and messages are built from. -/
namespace Code

abbrev cause : UInt8 := 1

abbrev recovery : UInt8 := 14

abbrev packetTransferCommand : UInt8 := 126

abbrev sequenceNumbersOfReleasedPackets : UInt8 := 249

abbrev sequenceNumbersOfCancelledPackets : UInt8 := 250

abbrev chargingGatewayAddress : UInt8 := 251

abbrev dataRecordPacket : UInt8 := 252

abbrev requestsResponded : UInt8 := 253

abbrev addressOfRecommendedNode : UInt8 := 254

abbrev privateExtension : UInt8 := 255

end Code

end GtpControl.Catalog.Prime
