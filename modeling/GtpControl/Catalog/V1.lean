import GtpControl.Catalog.Entry

/-! # Message and element types of GTPv1-C -/
namespace GtpControl.Catalog.V1

def messages : List MessageEntry := [
  ⟨1, "Echo Request", false⟩,
  ⟨2, "Echo Response", true⟩,
  ⟨3, "Version Not Supported", true⟩,
  ⟨4, "Node Alive Request", false⟩,
  ⟨5, "Node Alive Response", true⟩,
  ⟨6, "Redirection Request", false⟩,
  ⟨7, "Redirection Response", true⟩,
  ⟨16, "Create PDP Context Request", false⟩,
  ⟨17, "Create PDP Context Response", true⟩,
  ⟨18, "Update PDP Context Request", false⟩,
  ⟨19, "Update PDP Context Response", true⟩,
  ⟨20, "Delete PDP Context Request", false⟩,
  ⟨21, "Delete PDP Context Response", true⟩,
  ⟨22, "Initiate PDP Context Activation Request", false⟩,
  ⟨23, "Initiate PDP Context Activation Response", true⟩,
  ⟨26, "Error Indication", false⟩,
  ⟨27, "PDU Notification Request", false⟩,
  ⟨28, "PDU Notification Response", true⟩,
  ⟨29, "PDU Notification Reject Request", false⟩,
  ⟨30, "PDU Notification Reject Response", true⟩,
  ⟨31, "Supported Extension Header Notification", false⟩,
  ⟨32, "Send Routeing Information for GPRS Request", false⟩,
  ⟨33, "Send Routeing Information for GPRS Response", true⟩,
  ⟨34, "Failure Report Request", false⟩,
  ⟨35, "Failure Report Response", true⟩,
  ⟨36, "Note MS GPRS Present Request", false⟩,
  ⟨37, "Note MS GPRS Present Response", true⟩,
  ⟨48, "Identification Request", false⟩,
  ⟨49, "Identification Response", true⟩,
  ⟨50, "SGSN Context Request", false⟩,
  ⟨51, "SGSN Context Response", true⟩,
  ⟨52, "SGSN Context Acknowledge", true⟩,
  ⟨53, "Forward Relocation Request", false⟩,
  ⟨54, "Forward Relocation Response", true⟩,
  ⟨55, "Forward Relocation Complete", false⟩,
  ⟨56, "Relocation Cancel Request", false⟩,
  ⟨57, "Relocation Cancel Response", true⟩,
  ⟨58, "Forward SRNS Context", false⟩,
  ⟨59, "Forward Relocation Complete Acknowledge", true⟩,
  ⟨60, "Forward SRNS Context Acknowledge", true⟩,
  ⟨61, "UE Registration Query Request", false⟩,
  ⟨62, "UE Registration Query Response", true⟩,
  ⟨70, "RAN Information Relay", false⟩,
  ⟨96, "MBMS Notification Request", false⟩,
  ⟨97, "MBMS Notification Response", true⟩,
  ⟨98, "MBMS Notification Reject Request", false⟩,
  ⟨99, "MBMS Notification Reject Response", true⟩,
  ⟨100, "Create MBMS Context Request", false⟩,
  ⟨101, "Create MBMS Context Response", true⟩,
  ⟨102, "Update MBMS Context Request", false⟩,
  ⟨103, "Update MBMS Context Response", true⟩,
  ⟨104, "Delete MBMS Context Request", false⟩,
  ⟨105, "Delete MBMS Context Response", true⟩,
  ⟨240, "Data Record Transfer Request", false⟩,
  ⟨241, "Data Record Transfer Response", true⟩,
  ⟨254, "End Marker", false⟩,
  ⟨255, "G-PDU", false⟩]

def elements : List ElementEntry := [
  ⟨1, "Cause", .fixed 1⟩,
  ⟨2, "IMSI", .fixed 8⟩,
  ⟨3, "RouteingAreaIdentity", .fixed 6⟩,
  ⟨4, "TLLI", .fixed 4⟩,
  ⟨5, "PacketTMSI", .fixed 4⟩,
  ⟨8, "ReorderingRequired", .fixed 1⟩,
  ⟨9, "AuthenticationTriplet", .fixed 28⟩,
  ⟨11, "MAPCause", .fixed 1⟩,
  ⟨12, "PTMSISignature", .fixed 3⟩,
  ⟨13, "MSValidated", .fixed 1⟩,
  ⟨14, "Recovery", .fixed 1⟩,
  ⟨15, "SelectionMode", .fixed 1⟩,
  ⟨16, "TEIDDataI", .fixed 4⟩,
  ⟨17, "TEIDCPlane", .fixed 4⟩,
  ⟨18, "TEIDDataII", .fixed 5⟩,
  ⟨19, "TeardownInd", .fixed 1⟩,
  ⟨20, "NSAPI", .fixed 1⟩,
  ⟨21, "RANAPCause", .fixed 1⟩,
  ⟨22, "RABContext", .fixed 9⟩,
  ⟨23, "RadioPrioritySMS", .fixed 1⟩,
  ⟨24, "RadioPriority", .fixed 1⟩,
  ⟨25, "PacketFlowID", .fixed 2⟩,
  ⟨26, "ChargingCharacteristics", .fixed 2⟩,
  ⟨27, "TraceReference", .fixed 2⟩,
  ⟨28, "TraceType", .fixed 2⟩,
  ⟨29, "MSNotReachableReason", .fixed 1⟩,
  ⟨127, "ChargingID", .fixed 4⟩,
  ⟨128, "EndUserAddress", .sized⟩,
  ⟨129, "MMContext", .sized⟩,
  ⟨130, "PDPContext", .sized⟩,
  ⟨131, "AccessPointName", .sized⟩,
  ⟨132, "ProtocolConfigurationOptions", .sized⟩,
  ⟨133, "GSNAddress", .sized⟩,
  ⟨134, "MSISDN", .sized⟩,
  ⟨135, "QoSProfile", .sized⟩,
  ⟨136, "AuthenticationQuintuplet", .sized⟩,
  ⟨137, "TrafficFlowTemplate", .sized⟩,
  ⟨138, "TargetIdentification", .sized⟩,
  ⟨139, "UTRANTransparentContainer", .sized⟩,
  ⟨140, "RABSetupInformation", .sized⟩,
  ⟨141, "ExtensionHeaderTypeList", .sized⟩,
  ⟨142, "TriggerID", .sized⟩,
  ⟨143, "OMCIdentity", .sized⟩,
  ⟨148, "CommonFlags", .sized⟩,
  ⟨149, "APNRestriction", .sized⟩,
  ⟨151, "RATType", .sized⟩,
  ⟨152, "UserLocationInformation", .sized⟩,
  ⟨153, "MSTimeZone", .sized⟩,
  ⟨154, "IMEISV", .sized⟩,
  ⟨198, "APNAMBR", .sized⟩,
  ⟨251, "ChargingGatewayAddress", .sized⟩,
  ⟨255, "PrivateExtension", .sized⟩]

/-! Element types that values and messages are built from. -/
namespace Code

abbrev cause : UInt8 := 1

abbrev imsi : UInt8 := 2

abbrev routeingAreaIdentity : UInt8 := 3

abbrev reorderingRequired : UInt8 := 8

abbrev recovery : UInt8 := 14

abbrev selectionMode : UInt8 := 15

abbrev teidDataI : UInt8 := 16

abbrev teidCPlane : UInt8 := 17

abbrev teidDataIi : UInt8 := 18

abbrev teardownInd : UInt8 := 19

abbrev nsapi : UInt8 := 20

abbrev chargingCharacteristics : UInt8 := 26

abbrev chargingId : UInt8 := 127

abbrev endUserAddress : UInt8 := 128

abbrev accessPointName : UInt8 := 131

abbrev protocolConfigurationOptions : UInt8 := 132

abbrev gsnAddress : UInt8 := 133

abbrev msisdn : UInt8 := 134

abbrev qosProfile : UInt8 := 135

abbrev trafficFlowTemplate : UInt8 := 137

abbrev commonFlags : UInt8 := 148

abbrev ratType : UInt8 := 151

abbrev userLocationInformation : UInt8 := 152

abbrev msTimeZone : UInt8 := 153

abbrev imeisv : UInt8 := 154

abbrev chargingGatewayAddress : UInt8 := 251

abbrev privateExtension : UInt8 := 255

end Code

end GtpControl.Catalog.V1
