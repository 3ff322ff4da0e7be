/-! # Names of the places that elements have in messages -/
namespace GtpControl

inductive Field where
  | alternativeNodeAddress | ambr | apn | apnRestriction | bearerContextsCreated
  | bearerContextsMarkedForRemoval | bearerContextsModified | bearerContextsToBeCreated
  | bearerContextsToBeModified | bearerContextsToBeRemoved | cause | chargingCharacteristics
  | chargingGatewayAddress | chargingId | commonFlags | completeTauRequest | dataRecordPacket
  | delayDownlinkPacketNotification | endUserAddress | ggsnAddressForSignalling
  | ggsnAddressForUserTraffic | guti | hopCounter | imei | imsi | indication | linkedEbi
  | linkedNsapi | listOfRabs | loadControlInformation | mei | mmeNodeName | mmesgsnLdn
  | msTimeZone | msisdn | nodeAddress | nsapi | originatingNode | overloadControlInformation
  | paa | packetTransferCommand | pco | pdnType | pgwS5s8FteidC | privateExtension | ptmsi
  | ptmsiSignature | qosProfile | rai | ratType | recovery | reorderingRequired
  | requestsResponded | s3FteidC | selectionMode | senderFteidC | sendingNodeFeatures
  | sequenceNumbersOfCancelledPackets | sequenceNumbersOfReleasedPackets | servingNetwork
  | sgsnAddressForSignalling | sgsnAddressForUserTraffic | sgsnNodeName | targetPlmn
  | teardownInd | teidCPlane | teidDataI | tft | udpSourcePort | ueTimeZone | uli
deriving DecidableEq, Repr

/-- The name in listings of a message. -/
def Field.label : Field → String
  | .alternativeNodeAddress => "alternative_node_address"
  | .ambr => "ambr"
  | .apn => "apn"
  | .apnRestriction => "apn_restriction"
  | .bearerContextsCreated => "bearer_contexts_created"
  | .bearerContextsMarkedForRemoval => "bearer_contexts_marked_for_removal"
  | .bearerContextsModified => "bearer_contexts_modified"
  | .bearerContextsToBeCreated => "bearer_contexts_to_be_created"
  | .bearerContextsToBeModified => "bearer_contexts_to_be_modified"
  | .bearerContextsToBeRemoved => "bearer_contexts_to_be_removed"
  | .cause => "cause"
  | .chargingCharacteristics => "charging_characteristics"
  | .chargingGatewayAddress => "charging_gateway_address"
  | .chargingId => "charging_id"
  | .commonFlags => "common_flags"
  | .completeTauRequest => "complete_tau_request"
  | .dataRecordPacket => "data_record_packet"
  | .delayDownlinkPacketNotification => "delay_downlink_packet_notification"
  | .endUserAddress => "end_user_address"
  | .ggsnAddressForSignalling => "ggsn_address_for_signalling"
  | .ggsnAddressForUserTraffic => "ggsn_address_for_user_traffic"
  | .guti => "guti"
  | .hopCounter => "hop_counter"
  | .imei => "imei"
  | .imsi => "imsi"
  | .indication => "indication"
  | .linkedEbi => "linked_ebi"
  | .linkedNsapi => "linked_nsapi"
  | .listOfRabs => "list_of_rabs"
  | .loadControlInformation => "load_control_information"
  | .mei => "mei"
  | .mmeNodeName => "mme_node_name"
  | .mmesgsnLdn => "mmesgsn_ldn"
  | .msTimeZone => "ms_time_zone"
  | .msisdn => "msisdn"
  | .nodeAddress => "node_address"
  | .nsapi => "nsapi"
  | .originatingNode => "originating_node"
  | .overloadControlInformation => "overload_control_information"
  | .paa => "paa"
  | .packetTransferCommand => "packet_transfer_command"
  | .pco => "pco"
  | .pdnType => "pdn_type"
  | .pgwS5s8FteidC => "pgw_s5s8_fteid_c"
  | .privateExtension => "private_extension"
  | .ptmsi => "ptmsi"
  | .ptmsiSignature => "ptmsi_signature"
  | .qosProfile => "qos_profile"
  | .rai => "rai"
  | .ratType => "rat_type"
  | .recovery => "recovery"
  | .reorderingRequired => "reordering_required"
  | .requestsResponded => "requests_responded"
  | .s3FteidC => "s3_fteid_c"
  | .selectionMode => "selection_mode"
  | .senderFteidC => "sender_fteid_c"
  | .sendingNodeFeatures => "sending_node_features"
  | .sequenceNumbersOfCancelledPackets => "sequence_numbers_of_cancelled_packets"
  | .sequenceNumbersOfReleasedPackets => "sequence_numbers_of_released_packets"
  | .servingNetwork => "serving_network"
  | .sgsnAddressForSignalling => "sgsn_address_for_signalling"
  | .sgsnAddressForUserTraffic => "sgsn_address_for_user_traffic"
  | .sgsnNodeName => "sgsn_node_name"
  | .targetPlmn => "target_plmn"
  | .teardownInd => "teardown_ind"
  | .teidCPlane => "teid_c_plane"
  | .teidDataI => "teid_data_i"
  | .tft => "tft"
  | .udpSourcePort => "udp_source_port"
  | .ueTimeZone => "ue_time_zone"
  | .uli => "uli"

end GtpControl
