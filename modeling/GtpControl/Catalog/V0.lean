import GtpControl.Catalog.Entry

/-! # Message and element types of GTPv0 -/
namespace GtpControl.Catalog.V0

def messages : List MessageEntry := [
  ⟨1, "Echo Request", false⟩,
  ⟨2, "Echo Response", true⟩,
  ⟨3, "Version Not Supported", true⟩,
  ⟨4, "Node Alive Request", false⟩,
  ⟨5, "Node Alive Response", true⟩,
  ⟨6, "Redirection Request", false⟩,
  ⟨7, "Redirection Response", true⟩,
  ⟨16, "Create PDP Context Request", false⟩,
  ⟨17, "Create PDP Context Response", true⟩,
  ⟨18, "Update PDP Context Request", false⟩,
  ⟨19, "Update PDP Context Response", true⟩,
  ⟨20, "Delete PDP Context Request", false⟩,
  ⟨21, "Delete PDP Context Response", true⟩,
  ⟨22, "Create AA PDP Context Request", false⟩,
  ⟨23, "Create AA PDP Context Response", true⟩,
  ⟨24, "Delete AA PDP Context Request", false⟩,
  ⟨25, "Delete AA PDP Context Response", true⟩,
  ⟨26, "Error Indication", false⟩,
  ⟨27, "PDU Notification Request", false⟩,
  ⟨28, "PDU Notification Response", true⟩,
  ⟨29, "PDU Notification Reject Request", false⟩,
  ⟨30, "PDU Notification Reject Response", true⟩,
  ⟨32, "Send Routeing Information for GPRS Request", false⟩,
  ⟨33, "Send Routeing Information for GPRS Response", true⟩,
  ⟨34, "Failure Report Request", false⟩,
  ⟨35, "Failure Report Response", true⟩,
  ⟨36, "Note MS GPRS Present Request", false⟩,
  ⟨37, "Note MS GPRS Present Response", true⟩,
  ⟨48, "Identification Request", false⟩,
  ⟨49, "Identification Response", true⟩,
  ⟨50, "SGSN Context Request", false⟩,
  ⟨51, "SGSN Context Response", true⟩,
  ⟨52, "SGSN Context Acknowledge", true⟩,
  ⟨240, "Data Record Transfer Request", false⟩,
  ⟨241, "Data Record Transfer Response", true⟩,
  ⟨255, "T-PDU", false⟩]

def elements : List ElementEntry := [
  ⟨1, "Cause", .fixed 1⟩,
  ⟨2, "IMSI", .fixed 8⟩,
  ⟨3, "RouteingAreaIdentity", .fixed 6⟩,
  ⟨4, "TLLI", .fixed 4⟩,
  ⟨5, "PacketTMSI", .fixed 4⟩,
  ⟨6, "QualityOfServiceProfile", .fixed 3⟩,
  ⟨8, "ReorderingRequired", .fixed 1⟩,
  ⟨9, "AuthenticationTriplet", .fixed 28⟩,
  ⟨11, "MAPCause", .fixed 1⟩,
  ⟨12, "PTMSISignature", .fixed 3⟩,
  ⟨13, "MSValidated", .fixed 1⟩,
  ⟨14, "Recovery", .fixed 1⟩,
  ⟨15, "SelectionMode", .fixed 1⟩,
  ⟨16, "FlowLabelDataI", .fixed 2⟩,
  ⟨17, "FlowLabelSignalling", .fixed 2⟩,
  ⟨18, "FlowLabelDataII", .fixed 3⟩,
  ⟨19, "MSNotReachableReason", .fixed 1⟩,
  ⟨127, "ChargingID", .fixed 4⟩,
  ⟨128, "EndUserAddress", .sized⟩,
  ⟨129, "MMContext", .sized⟩,
  ⟨130, "PDPContext", .sized⟩,
  ⟨131, "AccessPointName", .sized⟩,
  ⟨132, "ProtocolConfigurationOptions", .sized⟩,
  ⟨133, "GSNAddress", .sized⟩,
  ⟨134, "MSISDN", .sized⟩,
  ⟨251, "ChargingGatewayAddress", .sized⟩,
  ⟨255, "PrivateExtension", .sized⟩]

/-! Element types that values and messages are built from. -/
namespace Code

abbrev cause : UInt8 := 1

abbrev imsi : UInt8 := 2

abbrev qosProfile : UInt8 := 6

abbrev recovery : UInt8 := 14

abbrev selectionMode : UInt8 := 15

abbrev flowLabelDataI : UInt8 := 16

abbrev flowLabelSignalling : UInt8 := 17

abbrev chargingId : UInt8 := 127

abbrev endUserAddress : UInt8 := 128

abbrev accessPointName : UInt8 := 131

abbrev gsnAddress : UInt8 := 133

abbrev msisdn : UInt8 := 134

abbrev privateExtension : UInt8 := 255

end Code

end GtpControl.Catalog.V0
