import GtpControl.Element.Prime
import GtpControl.Element.V0
import GtpControl.Element.V1
import GtpControl.Element.V2
import GtpControl.Proofs.ElementFraming
import GtpControl.Proofs.FirstMatch

/-! # Where elements come from, and that each of them is read back from its encoding -/
namespace GtpControl.Element
open Catalog

/-! ## Elements made of values -/

/-- What the builders of GTPv0 make. -/
inductive V0.OfValue : Element → Prop where
  | cause (cause : UInt8) : OfValue (V0.ofCause cause)
  | imsi {imsi : String} {element : Element} (h : V0.ofImsi imsi = .ok element) : OfValue element
  | recovery (counter : UInt8) : OfValue (V0.ofRecovery counter)
  | selectionMode (mode : UInt8) : OfValue (V0.ofSelectionMode mode)
  | flowLabelData (label : UInt16) : OfValue (V0.ofFlowLabelData label)
  | flowLabelSignalling (label : UInt16) : OfValue (V0.ofFlowLabelSignalling label)
  | qosProfile (delay precedence throughput : UInt8) :
    OfValue (V0.ofQosProfile delay precedence throughput)
  | chargingId (id : UInt32) : OfValue (V0.ofChargingId id)
  | dynamicAddress (pdpType : UInt8) : OfValue (V0.ofDynamicAddress pdpType)
  | endUserAddress (address : IpAddress) : OfValue (V0.ofEndUserAddress address)
  | apn {apn : String} {element : Element} (h : V0.ofApn apn = .ok element) : OfValue element
  | gsnAddress (address : IpAddress) : OfValue (V0.ofGsnAddress address)
  | msisdn {msisdn : String} {element : Element} (h : V0.ofMsisdn msisdn = .ok element) :
    OfValue element
  | privateExtension (id : UInt16) (value : Octets) : OfValue (V0.ofPrivateExtension id value)

/-- What the builders of GTPv1-C make. -/
inductive V1.OfValue : Element → Prop where
  | cause (cause : UInt8) : OfValue (V1.ofCause cause)
  | imsi {imsi : String} {element : Element} (h : V1.ofImsi imsi = .ok element) : OfValue element
  | recovery (counter : UInt8) : OfValue (V1.ofRecovery counter)
  | selectionMode (mode : UInt8) : OfValue (V1.ofSelectionMode mode)
  | dataTeid (teid : UInt32) : OfValue (V1.ofDataTeid teid)
  | controlTeid (teid : UInt32) : OfValue (V1.ofControlTeid teid)
  | nsapi (nsapi : UInt8) : OfValue (V1.ofNsapi nsapi)
  | teardown (teardown : Bool) : OfValue (V1.ofTeardown teardown)
  | reordering (required : Bool) : OfValue (V1.ofReordering required)
  | chargingId (id : UInt32) : OfValue (V1.ofChargingId id)
  | chargingCharacteristics (value : UInt16) : OfValue (V1.ofChargingCharacteristics value)
  | dynamicAddress (pdpType : UInt8) : OfValue (V1.ofDynamicAddress pdpType)
  | endUserAddress (address : IpAddress) : OfValue (V1.ofEndUserAddress address)
  | apn {apn : String} {element : Element} (h : V1.ofApn apn = .ok element) : OfValue element
  | gsnAddress (address : IpAddress) : OfValue (V1.ofGsnAddress address)
  | chargingGatewayAddress (address : IpAddress) : OfValue (V1.ofChargingGatewayAddress address)
  | msisdn {msisdn : String} {element : Element} (h : V1.ofMsisdn msisdn = .ok element) :
    OfValue element
  | qosProfile (priority : UInt8) (profile : Octets) : OfValue (V1.ofQosProfile priority profile)
  | privateExtension (id : UInt16) (value : Octets) : OfValue (V1.ofPrivateExtension id value)

/-- What the builders of GTPv2-C make, apart from bearer contexts, which are grouped. -/
inductive V2.OfValue : Element → Prop where
  | imsi {imsi : String} {element : Element} (h : V2.ofImsi imsi = .ok element) : OfValue element
  | mei {mei : String} {element : Element} (h : V2.ofMei mei = .ok element) : OfValue element
  | msisdn {msisdn : String} {element : Element} (h : V2.ofMsisdn msisdn = .ok element) :
    OfValue element
  | cause (cause : UInt8) : OfValue (V2.ofCause cause)
  | causeWith (cause : UInt8) (connection bearer remote : Bool) (offending : Option Element) :
    OfValue (V2.ofCauseWith cause connection bearer remote offending)
  | recovery (counter : UInt8) : OfValue (V2.ofRecovery counter)
  | apn {apn : String} {element : Element} (h : V2.ofApn apn = .ok element) : OfValue element
  | ambr (uplink downlink : UInt32) : OfValue (V2.ofAmbr uplink downlink)
  | ebi (ebi : UInt8) : OfValue (V2.ofEbi ebi)
  | indication (flags : Octets) : OfValue (V2.ofIndication flags)
  | ratType (type : UInt8) : OfValue (V2.ofRatType type)
  | pdnType (type : UInt8) : OfValue (V2.ofPdnType type)
  | selectionMode (mode : UInt8) : OfValue (V2.ofSelectionMode mode)
  | apnRestriction (restriction : UInt8) : OfValue (V2.ofApnRestriction restriction)
  | servingNetwork {plmn : Plmn} {element : Element} (h : V2.ofServingNetwork plmn = .ok element) :
    OfValue element
  | location (location : Octets) : OfValue (V2.ofLocation location)
  | timeZone (zone summer : UInt8) : OfValue (V2.ofTimeZone zone summer)
  | nodeFeatures (features : UInt8) : OfValue (V2.ofNodeFeatures features)
  | paaV4 (address : Ipv4Address) : OfValue (V2.ofPaaV4 address)
  | paaV6 (networkBits : UInt8) (address : Ipv6Address) : OfValue (V2.ofPaaV6 networkBits address)
  | fteid (interface : UInt8) (teid : UInt32) (v4 : Option Ipv4Address)
    (v6 : Option Ipv6Address) : OfValue (V2.ofFteid interface teid v4 v6)
  | bearerQos (qos : Qos) : OfValue (V2.ofBearerQos qos)
  | chargingId (id : UInt32) : OfValue (V2.ofChargingId id)
  | ptmsi (ptmsi : UInt32) : OfValue (V2.ofPtmsi ptmsi)
  | ptmsiSignature (signature : UInt32) : OfValue (V2.ofPtmsiSignature signature)
  | privateExtension (id : UInt16) (value : Octets) : OfValue (V2.ofPrivateExtension id value)

/-- What the builders of GTP' make. -/
inductive Prime.OfValue : Element → Prop where
  | cause (cause : UInt8) : OfValue (Prime.ofCause cause)
  | recovery (counter : UInt8) : OfValue (Prime.ofRecovery counter)
  | packetTransferCommand (command : UInt8) : OfValue (Prime.ofPacketTransferCommand command)
  | dataRecordPacket {packet : DataRecordPacket} {element : Element}
    (h : Prime.ofDataRecordPacket packet = .ok element) : OfValue element
  | releasedPackets (sequences : List UInt16) : OfValue (Prime.ofReleasedPackets sequences)
  | cancelledPackets (sequences : List UInt16) : OfValue (Prime.ofCancelledPackets sequences)
  | requestsResponded (sequences : List UInt16) : OfValue (Prime.ofRequestsResponded sequences)
  | nodeAddress (address : IpAddress) : OfValue (Prime.ofNodeAddress address)
  | recommendedNode (address : IpAddress) : OfValue (Prime.ofRecommendedNode address)
  | privateExtension (id : UInt16) (value : Octets) : OfValue (Prime.ofPrivateExtension id value)

/-- What the builders of a version make. -/
def OfValue : Version → Element → Prop
  | .v0 => V0.OfValue
  | .v1 => V1.OfValue
  | .v2 => V2.OfValue
  | .prime => Prime.OfValue

/-- The elements that can be obtained: read, made, grouped, and changed or taken apart in any
order. -/
inductive Built (version : Version) : Element → Prop where
  | decoded {octets rest : Octets} {element : Element}
    (h : decode version octets = .ok (element, rest)) : Built version element
  | made {type inst : UInt8} {payload : Octets} {element : Element}
    (h : make version type inst payload = .ok element) : Built version element
  | ofValue {element : Element} (h : OfValue version element) : Built version element
  /-- a type with a length field that is not grouped gets an empty payload -/
  | grouped {type : UInt8} {children : List Element} (inst : UInt8)
    (ht : version.hasLength type = true) (hc : ∀ child ∈ children, Built version child) :
    Built version (group version type inst children)
  | added {element : Element} {more : List Element} (h : Built version element)
    (hm : ∀ child ∈ more, Built version child) : Built version (element.addChildren version more)
  | reduced {element : Element} (type inst : UInt8) (h : Built version element) :
    Built version (element.removeChild version type inst).2
  | removed {element child : Element} {type inst : UInt8} (h : Built version element)
    (hr : (element.removeChild version type inst).1 = some child) : Built version child
  | child {element child : Element} (h : Built version element) (hc : child ∈ element.children) :
    Built version child
  | instanced {element : Element} (inst : UInt8) (h : Built version element) :
    Built version (element.withInstance version inst)

variable {version : Version}

/-! ## What is built is sound -/

theorem sound_plain {type : UInt8} {payload : Octets} (hs : Shaped version type payload)
    (hg : version.isGrouped type = false) (inst : UInt8) :
    Sound version (plain version type inst payload) := by
  refine .intro ⟨hs, Version.maskInstance_maskInstance .., fun _ => ?_⟩ fun child hchild => ?_
  · exact decodeChildren_of_not_isGrouped hg payload
  · exact absurd hchild List.not_mem_nil

private theorem sound_fixed (width : Nat) {type : UInt8} {payload : Octets}
    (hf : version.form? type = some (.fixed width)) (hw : payload.length = width) :
    Sound version (plain version type 0 payload) := by
  refine sound_plain ?_ ?_ 0
  · rw [Shaped, hf]
    exact hw
  · rw [Version.isGrouped, hf]
    rfl

private theorem sound_sized {type : UInt8} (hf : version.form? type = some .sized)
    (payload : Octets) : Sound version (plain version type 0 payload) := by
  refine sound_plain ?_ ?_ 0
  · rw [Shaped, hf]
    trivial
  · rw [Version.isGrouped, hf]
    rfl

private theorem shaped_of_make {type inst : UInt8} {payload : Octets} {element : Element}
    (h : make version type inst payload = .ok element) :
    payload.length ≤ maxLength ∧ Shaped version type payload ∧ ∃ children,
      decodeChildren version type payload = .ok children ∧
        element = ⟨type, version.maskInstance inst, payload, children⟩ := by
  have hsize : ¬maxLength < payload.length := by
    intro hlt
    simp [make, hlt] at h
  refine ⟨Nat.not_lt.1 hsize, ?_⟩
  unfold make at h
  unfold Shaped
  simp only [hsize, if_false] at h
  match hf : version.form? type with
  | none => simp [hf] at h
  | some (.fixed width) =>
    by_cases hw : payload.length = width
    · simp only [hf, hw, ne_eq, not_true, if_false, bind_eq_ok, pure_eq, Except.ok.injEq] at h
      obtain ⟨children, hc, rfl⟩ := h
      exact ⟨hw, children, hc, rfl⟩
    · simp [hf, hw] at h
  | some .sized | some .grouped =>
    simp only [hf, bind_eq_ok, pure_eq, Except.ok.injEq] at h
    obtain ⟨children, hc, rfl⟩ := h
    exact ⟨trivial, children, hc, rfl⟩

theorem sound_of_make {type inst : UInt8} {payload : Octets} {element : Element}
    (h : make version type inst payload = .ok element) : Sound version element := by
  obtain ⟨-, hs, children, hc, rfl⟩ := shaped_of_make h
  refine .intro ⟨hs, Version.maskInstance_maskInstance .., fun _ => hc⟩ ?_
  exact forall_of_decodeChildren hc fun hp child hchild => (sound_of_decodeAll hp child hchild).1

theorem fits_of_make {type inst : UInt8} {payload : Octets} {element : Element}
    (h : make version type inst payload = .ok element) : Fits version element := by
  obtain ⟨hsize, -, children, -, rfl⟩ := shaped_of_make h
  exact fun _ => hsize

/-- A payload that can be written leaves no child whose length was cut off. -/
private theorem fits_of_mem {children : List Element} {child : Element}
    (hc : child ∈ children)
    (h : (children.flatMap (octets version)).length ≤ maxLength) : Fits version child := by
  intro _
  have hm : (child.octets version).Sublist (children.map (octets version)).flatten :=
    List.sublist_flatten_of_mem (List.mem_map_of_mem hc)
  have hl := hm.length_le
  rw [length_octets, encodedSize, ← List.flatMap_def] at hl
  omega

private theorem sound_setChildren {element : Element} {children : List Element}
    (hl : version.hasLength element.type = true)
    (hi : version.maskInstance element.inst = element.inst)
    (hg : version.isGrouped element.type = true) (hc : ∀ child ∈ children, Sound version child) :
    Sound version (element.setChildren version children) := by
  refine .intro ⟨shaped_of_hasLength hl _, hi, fun hf => ?_⟩ hc
  have hm : (children.flatMap (octets version)).length ≤ maxLength := hf hl
  rw [decodeChildren, if_pos (show version.isGrouped (element.setChildren ..).type = true from hg)]
  exact decodeAll_octets (fun child h => (hc child h).framed) fun child h => fits_of_mem h hm

theorem sound_group {type : UInt8} {children : List Element} (inst : UInt8)
    (ht : version.hasLength type = true) (hc : ∀ child ∈ children, Sound version child) :
    Sound version (group version type inst children) := by
  rw [group, addChildren]
  split
  · next hg =>
    exact sound_setChildren ht (Version.maskInstance_maskInstance ..) hg (by simpa [plain] using hc)
  · next hg => exact sound_plain (shaped_of_hasLength ht []) (by simpa [plain] using hg) inst

theorem sound_addChildren {element : Element} {more : List Element} (h : Sound version element)
    (hm : ∀ child ∈ more, Sound version child) :
    Sound version (element.addChildren version more) := by
  rw [addChildren]
  split
  · next hg =>
    refine sound_setChildren (Version.hasLength_of_isGrouped hg) h.framed.inst hg fun child hc => ?_
    rcases List.mem_append.1 hc with hc | hc
    · exact h.child hc
    · exact hm child hc
  · exact h

/-- Taking a child out yields a child and leaves a sound element. -/
theorem sound_removeChild {element : Element} (type inst : UInt8) (h : Sound version element) :
    Sound version (element.removeChild version type inst).2 ∧
      ∀ child, (element.removeChild version type inst).1 = some child →
        child ∈ element.children := by
  rw [removeChild]
  split
  · next hg =>
    split
    · next found rest ht =>
      have hp := perm_of_takeFirst ht
      refine ⟨?_, fun child hc => ?_⟩
      · refine sound_setChildren (Version.hasLength_of_isGrouped hg) h.framed.inst hg ?_
        exact fun child hc => h.child (hp.subset (List.mem_cons_of_mem found hc))
      · cases hc
        exact hp.subset List.mem_cons_self
    · exact ⟨h, fun child hc => by cases hc⟩
  · exact ⟨h, fun child hc => by cases hc⟩

theorem sound_withInstance {element : Element} (inst : UInt8) (h : Sound version element) :
    Sound version (element.withInstance version inst) :=
  .intro ⟨h.framed.shaped, Version.maskInstance_maskInstance .., h.framed.children⟩
    fun _ hc => h.child hc

/-! ## What is made of values is sound -/

private theorem length_paddedImsi {imsi : String} {payload : Octets}
    (h : paddedImsi imsi = .ok payload) : payload.length = 8 := by
  simp only [paddedImsi, bind_eq_ok] at h
  obtain ⟨digits, -, h⟩ := h
  split at h
  · simp at h
  · next hd =>
    simp only [pure_eq, Except.ok.injEq] at h
    rw [← h, List.length_append, List.length_replicate]
    omega

/-- Octets that may fail to be encoded make an element of a type without a fixed width. -/
private theorem sound_encoded {type : UInt8} {encoded : Coded Octets} {f : Octets → Octets}
    {element : Element} (hf : version.form? type = some .sized)
    (h : (encoded >>= fun octets => pure (plain version type 0 (f octets))) = .ok element) :
    Sound version element := by
  simp only [bind_eq_ok, pure_eq, Except.ok.injEq] at h
  obtain ⟨octets, -, rfl⟩ := h
  exact sound_sized hf (f octets)

private theorem V0.sound_of_ofValue {element : Element} (h : V0.OfValue element) :
    Sound .v0 element := by
  cases h with
  | imsi h =>
    simp only [V0.ofImsi, bind_eq_ok, pure_eq, Except.ok.injEq] at h
    obtain ⟨payload, hp, rfl⟩ := h
    exact sound_fixed 8 rfl (length_paddedImsi hp)
  | apn h => exact sound_encoded (f := id) rfl h
  | msisdn h => exact sound_encoded (f := (internationalNumber :: ·)) rfl h
  | dynamicAddress | endUserAddress | gsnAddress | privateExtension => exact sound_sized rfl _
  | _ => exact sound_fixed _ rfl rfl

private theorem V1.sound_of_ofValue {element : Element} (h : V1.OfValue element) :
    Sound .v1 element := by
  cases h with
  | imsi h =>
    simp only [V1.ofImsi, bind_eq_ok, pure_eq, Except.ok.injEq] at h
    obtain ⟨payload, hp, rfl⟩ := h
    exact sound_fixed 8 rfl (length_paddedImsi hp)
  | apn h => exact sound_encoded (f := id) rfl h
  | msisdn h => exact sound_encoded (f := (internationalNumber :: ·)) rfl h
  | dynamicAddress | endUserAddress | gsnAddress | chargingGatewayAddress | qosProfile
  | privateExtension => exact sound_sized rfl _
  | _ => exact sound_fixed _ rfl rfl

private theorem V2.sound_of_ofValue {element : Element} (h : V2.OfValue element) :
    Sound .v2 element := by
  cases h with
  | imsi h | mei h | msisdn h | apn h | servingNetwork h => exact sound_encoded (f := id) rfl h
  | _ => exact sound_sized rfl _

private theorem Prime.sound_of_ofValue {element : Element} (h : Prime.OfValue element) :
    Sound .prime element := by
  cases h with
  | dataRecordPacket h =>
    simp only [Prime.ofDataRecordPacket, bind_eq_ok] at h
    obtain ⟨payload, -, h⟩ := h
    exact sound_of_make h
  | cause | recovery | packetTransferCommand => exact sound_fixed _ rfl rfl
  | _ => exact sound_sized rfl _

theorem sound_of_ofValue {element : Element} (h : OfValue version element) :
    Sound version element := by
  cases version with
  | v0 => exact V0.sound_of_ofValue h
  | v1 => exact V1.sound_of_ofValue h
  | v2 => exact V2.sound_of_ofValue h
  | prime => exact Prime.sound_of_ofValue h

/-! ## Writing and reading what is built -/

/-- No way of obtaining and changing elements parts a payload from its children. -/
theorem sound_of_built {element : Element} (h : Built version element) :
    Sound version element := by
  induction h with
  | decoded h => exact (sound_of_decode h).1
  | made h => exact sound_of_make h
  | ofValue h => exact sound_of_ofValue h
  | grouped inst ht _ ih => exact sound_group inst ht ih
  | added _ _ ih ihm => exact sound_addChildren ih ihm
  | reduced type inst _ ih => exact (sound_removeChild type inst ih).1
  | removed _ hr ih => exact ih.child ((sound_removeChild _ _ ih).2 _ hr)
  | child _ hc ih => exact ih.child hc
  | instanced inst _ ih => exact sound_withInstance inst ih

/-- A built element whose payload fits is written, and read back whatever goes after it. -/
theorem exists_encoding {element : Element} (hb : Built version element)
    (hf : Fits version element) :
    ∃ octets, encode version element = .ok octets ∧
      ∀ tail, decode version (octets ++ tail) = .ok (element, tail) :=
  ⟨_, encode_eq_ok.2 ⟨hf, rfl⟩, decode_octets (sound_of_built hb).framed hf⟩

/-- An element that can be written takes as many octets as it says, and is read back from them as it
was, children included, whatever goes after it. -/
theorem decode_of_encode {element : Element} {octets : Octets} (hb : Built version element)
    (he : encode version element = .ok octets) :
    octets.length = element.encodedSize version ∧
      ∀ tail, decode version (octets ++ tail) = .ok (element, tail) := by
  obtain ⟨fits, rfl⟩ := encode_eq_ok.1 he
  exact ⟨length_octets version element, decode_octets (sound_of_built hb).framed fits⟩

/-- A bearer in a group, after a change of instance and before one more octet. -/
theorem decode_of_encode_nested :
    decode .v2 ([109, 0, 14, 3, 73, 0, 1, 0, 5, 93, 0, 5, 0, 73, 0, 1, 0, 6] ++ [255]) =
      .ok ((group .v2 109 1 [V2.ofEbi 5, V2.ofBearerContext [V2.ofEbi 6]]).withInstance .v2 3,
        [255]) := by
  have hebi : ∀ ebi, Built .v2 (V2.ofEbi ebi) := fun ebi => .ofValue (V2.OfValue.ebi ebi)
  have hbearer : Built .v2 (V2.ofBearerContext [V2.ofEbi 6]) :=
    .grouped 0 rfl (List.forall_mem_singleton.2 (hebi 6))
  have hgroup : Built .v2 (group .v2 109 1 [V2.ofEbi 5, V2.ofBearerContext [V2.ofEbi 6]]) :=
    .grouped 1 rfl (List.forall_mem_cons.2 ⟨hebi 5, List.forall_mem_singleton.2 hbearer⟩)
  exact (decode_of_encode (.instanced 3 hgroup) rfl).2 [255]

end GtpControl.Element
