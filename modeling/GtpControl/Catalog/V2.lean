import GtpControl.Catalog.Entry

/-! # Message and element types of GTPv2-C -/
namespace GtpControl.Catalog.V2

def messages : List MessageEntry := [
  ⟨1, "Echo Request", false⟩,
  ⟨2, "Echo Response", true⟩,
  ⟨3, "Version Not Supported Indication", true⟩,
  ⟨32, "Create Session Request", false⟩,
  ⟨33, "Create Session Response", true⟩,
  ⟨34, "Modify Bearer Request", false⟩,
  ⟨35, "Modify Bearer Response", true⟩,
  ⟨36, "Delete Session Request", false⟩,
  ⟨37, "Delete Session Response", true⟩,
  ⟨38, "Change Notification Request", false⟩,
  ⟨39, "Change Notification Response", true⟩,
  ⟨40, "Remote UE Report Notification", false⟩,
  ⟨41, "Remote UE Report Acknowledge", true⟩,
  ⟨64, "Modify Bearer Command", false⟩,
  ⟨65, "Modify Bearer Failure Indication", true⟩,
  ⟨66, "Delete Bearer Command", false⟩,
  ⟨67, "Delete Bearer Failure Indication", true⟩,
  ⟨68, "Bearer Resource Command", false⟩,
  ⟨69, "Bearer Resource Failure Indication", true⟩,
  ⟨70, "Downlink Data Notification Failure Indication", true⟩,
  ⟨71, "Trace Session Activation", false⟩,
  ⟨72, "Trace Session Deactivation", false⟩,
  ⟨73, "Stop Paging Indication", false⟩,
  ⟨95, "Create Bearer Request", false⟩,
  ⟨96, "Create Bearer Response", true⟩,
  ⟨97, "Update Bearer Request", false⟩,
  ⟨98, "Update Bearer Response", true⟩,
  ⟨99, "Delete Bearer Request", false⟩,
  ⟨100, "Delete Bearer Response", true⟩,
  ⟨101, "Delete PDN Connection Set Request", false⟩,
  ⟨102, "Delete PDN Connection Set Response", true⟩,
  ⟨103, "PGW Downlink Triggering Notification", false⟩,
  ⟨104, "PGW Downlink Triggering Acknowledge", true⟩,
  ⟨128, "Identification Request", false⟩,
  ⟨129, "Identification Response", true⟩,
  ⟨130, "Context Request", false⟩,
  ⟨131, "Context Response", true⟩,
  ⟨132, "Context Acknowledge", true⟩,
  ⟨133, "Forward Relocation Request", false⟩,
  ⟨134, "Forward Relocation Response", true⟩,
  ⟨135, "Forward Relocation Complete Notification", false⟩,
  ⟨136, "Forward Relocation Complete Acknowledge", true⟩,
  ⟨137, "Forward Access Context Notification", false⟩,
  ⟨138, "Forward Access Context Acknowledge", true⟩,
  ⟨139, "Relocation Cancel Request", false⟩,
  ⟨140, "Relocation Cancel Response", true⟩,
  ⟨141, "Configuration Transfer Tunnel", false⟩,
  ⟨149, "Detach Notification", false⟩,
  ⟨150, "Detach Acknowledge", true⟩,
  ⟨151, "CS Paging Indication", false⟩,
  ⟨152, "RAN Information Relay", false⟩,
  ⟨153, "Alert MME Notification", false⟩,
  ⟨154, "Alert MME Acknowledge", true⟩,
  ⟨155, "UE Activity Notification", false⟩,
  ⟨156, "UE Activity Acknowledge", true⟩,
  ⟨157, "ISR Status Indication", false⟩,
  ⟨158, "UE Registration Query Request", false⟩,
  ⟨159, "UE Registration Query Response", true⟩,
  ⟨160, "Create Forwarding Tunnel Request", false⟩,
  ⟨161, "Create Forwarding Tunnel Response", true⟩,
  ⟨162, "Suspend Notification", false⟩,
  ⟨163, "Suspend Acknowledge", true⟩,
  ⟨164, "Resume Notification", false⟩,
  ⟨165, "Resume Acknowledge", true⟩,
  ⟨166, "Create Indirect Data Forwarding Tunnel Request", false⟩,
  ⟨167, "Create Indirect Data Forwarding Tunnel Response", true⟩,
  ⟨168, "Delete Indirect Data Forwarding Tunnel Request", false⟩,
  ⟨169, "Delete Indirect Data Forwarding Tunnel Response", true⟩,
  ⟨170, "Release Access Bearers Request", false⟩,
  ⟨171, "Release Access Bearers Response", true⟩,
  ⟨176, "Downlink Data Notification", false⟩,
  ⟨177, "Downlink Data Notification Acknowledge", true⟩,
  ⟨179, "PGW Restart Notification", false⟩,
  ⟨180, "PGW Restart Notification Acknowledge", true⟩,
  ⟨200, "Update PDN Connection Set Request", false⟩,
  ⟨201, "Update PDN Connection Set Response", true⟩,
  ⟨211, "Modify Access Bearers Request", false⟩,
  ⟨212, "Modify Access Bearers Response", true⟩,
  ⟨231, "MBMS Session Start Request", false⟩,
  ⟨232, "MBMS Session Start Response", true⟩,
  ⟨233, "MBMS Session Update Request", false⟩,
  ⟨234, "MBMS Session Update Response", true⟩,
  ⟨235, "MBMS Session Stop Request", false⟩,
  ⟨236, "MBMS Session Stop Response", true⟩]

def elements : List ElementEntry := [
  ⟨1, "IMSI", .sized⟩,
  ⟨2, "Cause", .sized⟩,
  ⟨3, "Recovery", .sized⟩,
  ⟨51, "STNSR", .sized⟩,
  ⟨71, "AccessPointName", .sized⟩,
  ⟨72, "AggregateMaximumBitRate", .sized⟩,
  ⟨73, "EPSBearerID", .sized⟩,
  ⟨74, "IPAddress", .sized⟩,
  ⟨75, "MobileEquipmentIdentity", .sized⟩,
  ⟨76, "MSISDN", .sized⟩,
  ⟨77, "Indication", .sized⟩,
  ⟨78, "ProtocolConfigurationOptions", .sized⟩,
  ⟨79, "PDNAddressAllocation", .sized⟩,
  ⟨80, "BearerQoS", .sized⟩,
  ⟨81, "FlowQoS", .sized⟩,
  ⟨82, "RATType", .sized⟩,
  ⟨83, "ServingNetwork", .sized⟩,
  ⟨84, "BearerTFT", .sized⟩,
  ⟨85, "TrafficAggregateDescription", .sized⟩,
  ⟨86, "UserLocationInformation", .sized⟩,
  ⟨87, "FullyQualifiedTEID", .sized⟩,
  ⟨88, "TMSI", .sized⟩,
  ⟨89, "GlobalCNId", .sized⟩,
  ⟨90, "S103PDNDataForwardingInfo", .sized⟩,
  ⟨91, "S1UDataForwarding", .sized⟩,
  ⟨92, "DelayValue", .sized⟩,
  ⟨93, "BearerContext", .grouped⟩,
  ⟨94, "ChargingID", .sized⟩,
  ⟨95, "ChargingCharacteristics", .sized⟩,
  ⟨96, "TraceInformation", .sized⟩,
  ⟨97, "BearerFlags", .sized⟩,
  ⟨99, "PDNType", .sized⟩,
  ⟨100, "ProcedureTransactionID", .sized⟩,
  ⟨109, "PDNConnection", .grouped⟩,
  ⟨110, "PDUNumbers", .sized⟩,
  ⟨111, "PacketTMSI", .sized⟩,
  ⟨112, "PTMSISignature", .sized⟩,
  ⟨113, "HopCounter", .sized⟩,
  ⟨114, "UETimeZone", .sized⟩,
  ⟨115, "TraceReference", .sized⟩,
  ⟨116, "CompleteRequestMessage", .sized⟩,
  ⟨117, "GUTI", .sized⟩,
  ⟨118, "FullyQualifiedContainer", .sized⟩,
  ⟨119, "FullyQualifiedCause", .sized⟩,
  ⟨120, "PLMNID", .sized⟩,
  ⟨121, "TargetIdentification", .sized⟩,
  ⟨123, "PacketFlowID", .sized⟩,
  ⟨124, "RABContext", .sized⟩,
  ⟨125, "SourceRNCPDCPContextInfo", .sized⟩,
  ⟨126, "PortNumber", .sized⟩,
  ⟨127, "APNRestriction", .sized⟩,
  ⟨128, "SelectionMode", .sized⟩,
  ⟨129, "SourceIdentification", .sized⟩,
  ⟨131, "ChangeReportingAction", .sized⟩,
  ⟨132, "FullyQualifiedCSID", .sized⟩,
  ⟨133, "ChannelNeeded", .sized⟩,
  ⟨134, "EMLPPPriority", .sized⟩,
  ⟨135, "NodeType", .sized⟩,
  ⟨136, "FullyQualifiedDomainName", .sized⟩,
  ⟨137, "TransactionIdentifier", .sized⟩,
  ⟨144, "RFSPIndex", .sized⟩,
  ⟨145, "UserCSGInformation", .sized⟩,
  ⟨147, "CSGID", .sized⟩,
  ⟨148, "CSGMembershipIndication", .sized⟩,
  ⟨149, "ServiceIndicator", .sized⟩,
  ⟨150, "DetachType", .sized⟩,
  ⟨151, "LocalDistinguishedName", .sized⟩,
  ⟨152, "NodeFeatures", .sized⟩,
  ⟨154, "Throttling", .sized⟩,
  ⟨155, "AllocationRetensionPriority", .sized⟩,
  ⟨156, "EPCTimer", .sized⟩,
  ⟨157, "SignallingPriorityIndication", .sized⟩,
  ⟨163, "AdditionalProtocolConfigurationOptions", .sized⟩,
  ⟨167, "ChangeToReportFlags", .sized⟩,
  ⟨168, "ActionIndication", .sized⟩,
  ⟨169, "TWANIdentifier", .sized⟩,
  ⟨170, "ULITimestamp", .sized⟩,
  ⟨172, "RANNASCause", .sized⟩,
  ⟨175, "NodeNumber", .sized⟩,
  ⟨176, "NodeIdentifier", .sized⟩,
  ⟨177, "PresenceReportingAreaAction", .sized⟩,
  ⟨178, "PresenceReportingAreaInformation", .sized⟩,
  ⟨180, "OverloadControlInformation", .grouped⟩,
  ⟨181, "LoadControlInformation", .grouped⟩,
  ⟨182, "Metric", .sized⟩,
  ⟨183, "SequenceNumber", .sized⟩,
  ⟨184, "APNAndRelativeCapacity", .sized⟩,
  ⟨186, "PagingAndServiceInformation", .sized⟩,
  ⟨187, "IntegerNumber", .sized⟩,
  ⟨188, "MillisecondTimeStamp", .sized⟩,
  ⟨191, "RemoteUEContext", .grouped⟩,
  ⟨192, "RemoteUserID", .sized⟩,
  ⟨193, "RemoteUEIPInformation", .sized⟩,
  ⟨194, "CIoTOptimizationsSupportIndication", .sized⟩,
  ⟨195, "SCEFPDNConnection", .grouped⟩,
  ⟨196, "HeaderCompressionConfiguration", .sized⟩,
  ⟨197, "ExtendedProtocolConfigurationOptions", .sized⟩,
  ⟨198, "ServingPLMNRateControl", .sized⟩,
  ⟨199, "Counter", .sized⟩,
  ⟨201, "SecondaryRATUsageDataReport", .sized⟩,
  ⟨202, "UPFunctionSelectionIndicationFlags", .sized⟩,
  ⟨255, "PrivateExtension", .sized⟩]

/-! Element types that values and messages are built from. -/
namespace Code

abbrev imsi : UInt8 := 1

abbrev cause : UInt8 := 2

abbrev recovery : UInt8 := 3

abbrev apn : UInt8 := 71

abbrev ambr : UInt8 := 72

abbrev ebi : UInt8 := 73

abbrev mei : UInt8 := 75

abbrev msisdn : UInt8 := 76

abbrev indication : UInt8 := 77

abbrev pco : UInt8 := 78

abbrev paa : UInt8 := 79

abbrev bearerQos : UInt8 := 80

abbrev ratType : UInt8 := 82

abbrev servingNetwork : UInt8 := 83

abbrev uli : UInt8 := 86

abbrev fteid : UInt8 := 87

abbrev delayValue : UInt8 := 92

abbrev bearerContext : UInt8 := 93

abbrev chargingId : UInt8 := 94

abbrev chargingCharacteristics : UInt8 := 95

abbrev pdnType : UInt8 := 99

abbrev ptmsi : UInt8 := 111

abbrev ptmsiSignature : UInt8 := 112

abbrev hopCounter : UInt8 := 113

abbrev ueTimeZone : UInt8 := 114

abbrev completeRequestMessage : UInt8 := 116

abbrev guti : UInt8 := 117

abbrev portNumber : UInt8 := 126

abbrev apnRestriction : UInt8 := 127

abbrev selectionMode : UInt8 := 128

abbrev nodeType : UInt8 := 135

abbrev fqdn : UInt8 := 136

abbrev localDistinguishedName : UInt8 := 151

abbrev nodeFeatures : UInt8 := 152

abbrev loadControlInformation : UInt8 := 181

abbrev overloadControlInformation : UInt8 := 180

abbrev privateExtension : UInt8 := 255

end Code

end GtpControl.Catalog.V2
