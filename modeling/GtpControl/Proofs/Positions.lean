import GtpControl.Proofs.Positions.Readings

/-! # Reading reaches nothing outside its input

All that is read from a datagram, from the octets of elements or from the payload of one element is
read by positions as well, with the same answer. -/
namespace GtpControl
namespace Reached
open Catalog

/-- A reader by position, under the name of the reader whose answer it gives. -/
structure Prober where
  name : String
  probe : Element → Reached Reading

def Prober.of {α : Type} (name : String) (reading : α → Reading) (reach : Element → Reached α) :
    Prober :=
  ⟨name, fun element => return reading (← reach element)⟩

def octetNumber (n : UInt8) : Reading := .number n.toNat

def shortNumber (n : UInt16) : Reading := .number n.toNat

def longNumber (n : UInt32) : Reading := .number n.toNat

def pairExtension (extension : UInt16 × Octets) : Reading :=
  .extension extension.1 extension.2

def probersV0 : List Prober := [
  .of "cause" octetNumber (uint8 V0.Code.cause),
  .of "imsi" .text (digits V0.Code.imsi 8),
  .of "recovery" octetNumber (uint8 V0.Code.recovery),
  .of "selection_mode" octetNumber (masked 3 V0.Code.selectionMode),
  .of "flow_label" shortNumber V0.flowLabel,
  .of "qos_profile" (fun (delay, precedence, throughput) =>
    .numbers [delay.toNat, precedence.toNat, throughput.toNat]) V0.qosProfile,
  .of "charging_id" longNumber (uint32 V0.Code.chargingId),
  .of "end_user_address" (Reading.ofOption .address) (whole V0.Code.endUserAddress endUserAddress),
  .of "apn" .text (whole V0.Code.accessPointName apn),
  .of "gsn_address" .address (whole V0.Code.gsnAddress address),
  .of "msisdn" .text (msisdn V0.Code.msisdn),
  .of "private_extension" pairExtension (extension V0.Code.privateExtension)]

def probersV1 : List Prober := [
  .of "cause" octetNumber (uint8 V1.Code.cause),
  .of "imsi" .text (digits V1.Code.imsi 8),
  .of "recovery" octetNumber (uint8 V1.Code.recovery),
  .of "selection_mode" octetNumber (masked 3 V1.Code.selectionMode),
  .of "teid" longNumber V1.teid,
  .of "nsapi" octetNumber (masked 0x0f V1.Code.nsapi),
  .of "teardown_ind" .flag (marked V1.Code.teardownInd),
  .of "reordering_required" .flag (marked V1.Code.reorderingRequired),
  .of "charging_id" longNumber (uint32 V1.Code.chargingId),
  .of "end_user_address" (Reading.ofOption .address) (whole V1.Code.endUserAddress endUserAddress),
  .of "apn" .text (whole V1.Code.accessPointName apn),
  .of "gsn_address" .address (whole V1.Code.gsnAddress address),
  .of "msisdn" .text (msisdn V1.Code.msisdn),
  .of "qos_arp" octetNumber (uint8 V1.Code.qosProfile),
  .of "private_extension" pairExtension (extension V1.Code.privateExtension)]

def probersV2 : List Prober := [
  .of "imsi" .text (digits V2.Code.imsi 1),
  .of "cause" octetNumber (uint8 V2.Code.cause),
  .of "offending_ie_type" (Reading.ofOption octetNumber) V2.offendingType,
  .of "is_remote_cause" .flag V2.isRemoteCause,
  .of "recovery" octetNumber (uint8 V2.Code.recovery),
  .of "apn" .text (whole V2.Code.apn apn),
  .of "ambr" (fun (uplink, downlink) => .numbers [uplink.toNat, downlink.toNat]) V2.ambr,
  .of "ebi" octetNumber (masked 0x0f V2.Code.ebi),
  .of "mei" .text (digits V2.Code.mei 1),
  .of "msisdn" .text (digits V2.Code.msisdn 1),
  .of "indication_flags" .octets V2.indicationFlags,
  .of "pdn_address" .address V2.pdnAddress,
  .of "rat_type" octetNumber (uint8 V2.Code.ratType),
  .of "pdn_type" octetNumber (masked 7 V2.Code.pdnType),
  .of "selection_mode" octetNumber (masked 3 V2.Code.selectionMode),
  .of "apn_restriction" octetNumber (uint8 V2.Code.apnRestriction),
  .of "serving_network" .network (whole V2.Code.servingNetwork plmn),
  .of "interface_type" octetNumber V2.interfaceType,
  .of "teid" longNumber V2.teid,
  .of "fteid_ipv4" (Reading.ofOption .address) fun element =>
    return (← V2.fteidV4 element).map .v4,
  .of "fteid_ipv6" (Reading.ofOption .address) fun element =>
    return (← V2.fteidV6 element).map .v6,
  .of "qci" octetNumber V2.qci,
  .of "priority_level" octetNumber V2.priorityLevel,
  .of "charging_id" longNumber (uint32 V2.Code.chargingId),
  .of "ptmsi" longNumber (uint32 V2.Code.ptmsi),
  .of "ptmsi_signature" longNumber V2.ptmsiSignature,
  .of "private_extension" pairExtension (extension V2.Code.privateExtension)]

def probersPrime : List Prober := [
  .of "cause" octetNumber (uint8 Prime.Code.cause),
  .of "recovery" octetNumber (uint8 Prime.Code.recovery),
  .of "packet_transfer_command" octetNumber (uint8 Prime.Code.packetTransferCommand),
  .of "data_record_packet" .packet (whole Prime.Code.dataRecordPacket packet),
  .of "sequence_numbers" (fun numbers => .numbers (numbers.map UInt16.toNat))
    Prime.sequenceNumbers,
  .of "node_address" .address Prime.nodeAddress,
  .of "private_extension" pairExtension (extension Prime.Code.privateExtension)]

/-- The readers by position of a version's elements. -/
def probers : Version → List Prober
  | .v0 => probersV0
  | .v1 => probersV1
  | .v2 => probersV2
  | .prime => probersPrime

/-- A reader by position stands for a reader, on elements of any type and payload. -/
def Probes (prober : Prober) (reader : Reading.Reader) : Prop :=
  prober.name = reader.name ∧ ∀ element, Stays (prober.probe element) (reader.read element)

private theorem probes {α : Type} {name : String} {reading : α → Reading}
    {reach : Element → Reached α} {read : Element → Coded α}
    (h : ∀ element, reach element = answer (read element)) :
    Probes (.of name reading reach) ⟨name, fun element => return reading (← read element)⟩ := by
  refine ⟨rfl, fun element => stays_of_eq ?_⟩
  simp only [Prober.of, h, answer_bind, pure_eq, answer_ok]

private theorem probes_v0 : List.Forall₂ Probes probersV0 Reading.readersV0 :=
  .cons (probes (uint8_eq _)) <| .cons (probes fun e => digits_eq _ e _) <|
  .cons (probes (uint8_eq _)) <| .cons (probes fun e => masked_eq _ e _) <|
  .cons (probes V0.flowLabel_eq) <| .cons (probes V0.qosProfile_eq) <|
  .cons (probes (uint32_eq _)) <| .cons (probes (whole_eq endUserAddress_eq)) <|
  .cons (probes (whole_eq apn_eq)) <| .cons (probes (whole_eq address_eq)) <|
  .cons (probes (msisdn_eq _)) <| .cons (probes (extension_eq _)) .nil

private theorem probes_v1 : List.Forall₂ Probes probersV1 Reading.readersV1 :=
  .cons (probes (uint8_eq _)) <| .cons (probes fun e => digits_eq _ e _) <|
  .cons (probes (uint8_eq _)) <| .cons (probes fun e => masked_eq _ e _) <|
  .cons (probes V1.teid_eq) <| .cons (probes fun e => masked_eq _ e _) <|
  .cons (probes (marked_eq _)) <| .cons (probes (marked_eq _)) <|
  .cons (probes (uint32_eq _)) <| .cons (probes (whole_eq endUserAddress_eq)) <|
  .cons (probes (whole_eq apn_eq)) <| .cons (probes (whole_eq address_eq)) <|
  .cons (probes (msisdn_eq _)) <| .cons (probes (uint8_eq _)) <|
  .cons (probes (extension_eq _)) .nil

private theorem probes_v2 : List.Forall₂ Probes probersV2 Reading.readersV2 :=
  .cons (probes fun e => digits_eq _ e _) <| .cons (probes (uint8_eq _)) <|
  .cons (probes V2.offendingType_eq) <| .cons (probes V2.isRemoteCause_eq) <|
  .cons (probes (uint8_eq _)) <| .cons (probes (whole_eq apn_eq)) <|
  .cons (probes V2.ambr_eq) <| .cons (probes fun e => masked_eq _ e _) <|
  .cons (probes fun e => digits_eq _ e _) <| .cons (probes fun e => digits_eq _ e _) <|
  .cons (probes V2.indicationFlags_eq) <| .cons (probes V2.pdnAddress_eq) <|
  .cons (probes (uint8_eq _)) <| .cons (probes fun e => masked_eq _ e _) <|
  .cons (probes fun e => masked_eq _ e _) <| .cons (probes (uint8_eq _)) <|
  .cons (probes (whole_eq plmn_eq)) <| .cons (probes V2.interfaceType_eq) <|
  .cons (probes V2.teid_eq) <| .cons (probes fun e => mapped_eq _ (V2.fteidV4_eq e)) <|
  .cons (probes fun e => mapped_eq _ (V2.fteidV6_eq e)) <| .cons (probes V2.qci_eq) <|
  .cons (probes V2.priorityLevel_eq) <| .cons (probes (uint32_eq _)) <|
  .cons (probes (uint32_eq _)) <| .cons (probes V2.ptmsiSignature_eq) <|
  .cons (probes (extension_eq _)) .nil

private theorem probes_prime : List.Forall₂ Probes probersPrime Reading.readersPrime :=
  .cons (probes (uint8_eq _)) <| .cons (probes (uint8_eq _)) <| .cons (probes (uint8_eq _)) <|
  .cons (probes (whole_eq packet_eq)) <| .cons (probes Prime.sequenceNumbers_eq) <|
  .cons (probes Prime.nodeAddress_eq) <| .cons (probes (extension_eq _)) .nil

private theorem probes_readers (version : Version) :
    List.Forall₂ Probes (probers version) version.readers := by
  cases version
  · exact probes_v0
  · exact probes_v1
  · exact probes_v2
  · exact probes_prime

/-- Whatever the octets, the policy, and the type and payload of an element: no reading reaches
outside its input, and each gives the answer that the decoder gives, a value or a refusal. -/
theorem stays_inside (version : Version) :
    (∀ data, Stays (detect data) (Version.detect data)) ∧
    (∀ policy data, Stays (header version policy data) (Header.parse version policy data)) ∧
    (∀ policy data, Stays (parts version policy data) (Message.parseParts version policy data)) ∧
    (∀ data, Stays (elements version data) (Element.decodeAll version data)) ∧
    (∀ data, Stays (element version data) (Prod.fst <$> Element.decode version data)) ∧
    (∀ type inst payload,
      Stays (make version type inst payload) (Element.make version type inst payload)) ∧
    List.Forall₂ Probes (probers version) version.readers ∧
    ∀ element, Stays (V2.bearerQos element) (Element.V2.bearerQos element) :=
  ⟨fun data => stays_of_eq (detect_eq data),
    fun policy data => stays_of_eq (header_eq version policy data),
    fun policy data => stays_of_eq (parts_eq version policy data),
    fun data => stays_of_eq (elements_eq version data),
    fun data => stays_of_eq (element_eq version data),
    fun type inst payload => stays_of_eq (make_eq version type inst payload),
    probes_readers version,
    fun element => stays_of_eq (V2.bearerQos_eq element)⟩

end Reached
end GtpControl
