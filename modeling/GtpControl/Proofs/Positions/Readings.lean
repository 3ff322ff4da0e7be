import GtpControl.Proofs.Positions.Elements
import GtpControl.Proofs.Positions.Values

/-! # What elements hold, read by position -/
namespace GtpControl
namespace Reached
variable {α : Type}

/-! ## Payloads of the expected type -/

/-- The payload of an element of the expected type, which has to hold so many octets. -/
def payload (type : UInt8) (needed : Nat) (element : Element) : Reached Octets := do
  let octets ← answer (element.expect type)
  answer (ensureSize octets.length needed)
  return octets

/-- The value that a whole payload of the expected type holds. -/
def whole (type : UInt8) (reach : Octets → Reached α) (element : Element) : Reached α := do
  reach (← answer (element.expect type))

def uint8 (type : UInt8) (element : Element) : Reached UInt8 := do
  octet (← payload type 1 element) 0

/-- The bits of an octet that a mask leaves. -/
def masked (mask type : UInt8) (element : Element) : Reached UInt8 :=
  return (← uint8 type element) &&& mask

/-- The lowest bit of an octet. -/
def marked (type : UInt8) (element : Element) : Reached Bool :=
  return (← uint8 type element) &&& 1 != 0

def uint16 (type : UInt8) (element : Element) : Reached UInt16 := do
  uint16At (← payload type 2 element) 0

def uint32 (type : UInt8) (element : Element) : Reached UInt32 := do
  uint32At (← payload type 4 element) 0

def digits (type : UInt8) (needed : Nat) (element : Element) : Reached String :=
  return Tbcd.decode (← payload type needed element)

def msisdn (type : UInt8) (element : Element) : Reached String := do
  return Tbcd.decode (← tail (← payload type 2 element) 1)

def extension (type : UInt8) (element : Element) : Reached (UInt16 × Octets) := do
  let octets ← payload type 2 element
  return (← uint16At octets 0, ← tail octets 2)

theorem payload_bind {type : UInt8} {needed : Nat} {reach : Octets → Reached α}
    {read : Octets → Coded α}
    (h : ∀ octets, (do answer (ensureSize octets.length needed); reach octets) =
      answer (read octets)) (element : Element) :
    (do reach (← payload type needed element)) = answer (do read (← element.expect type)) := by
  rw [payload]
  cases element.expect type with
  | error e => rfl
  | ok octets =>
    simp only [answer_ok, ok_bind, bind_assoc, pure_eq]
    exact h octets

theorem whole_eq {type : UInt8} {reach : Octets → Reached α} {read : Octets → Coded α}
    (h : ∀ octets, reach octets = answer (read octets)) (element : Element) :
    whole type reach element = answer (do read (← element.expect type)) := by
  simp only [whole, answer_bind, h]

/-- A computation on what was read looks at no further octet. -/
theorem mapped_eq {β : Type} (f : α → β) {reach : Reached α} {read : Coded α}
    (h : reach = answer read) : (do return f (← reach)) = answer (do return f (← read)) := by
  simp only [h, answer_bind, pure_eq, answer_ok]

section
variable (type : UInt8) (element : Element)

theorem uint8_eq : uint8 type element = answer (element.readUInt8 type) :=
  payload_bind (fun | [] => rfl | _ :: _ => rfl) element

theorem masked_eq (mask : UInt8) :
    masked mask type element = answer (do return (← element.readUInt8 type) &&& mask) :=
  mapped_eq (· &&& mask) (uint8_eq type element)

theorem marked_eq :
    marked type element = answer (do return (← element.readUInt8 type) &&& 1 != 0) :=
  mapped_eq (· &&& 1 != 0) (uint8_eq type element)

theorem uint16_eq : uint16 type element = answer (element.readUInt16 type) :=
  payload_bind (fun | [] | [_] => rfl | _ :: _ :: _ => rfl) element

theorem uint32_eq : uint32 type element = answer (element.readUInt32 type) :=
  payload_bind (fun | [] | [_] | [_, _] | [_, _, _] => rfl | _ :: _ :: _ :: _ :: _ => rfl) element

theorem digits_eq (needed : Nat) :
    digits type needed element = answer (element.readDigits type needed) := by
  simp only [digits, payload, Element.readDigits, answer_bind, bind_assoc, pure_eq, ok_bind,
    answer_ok]

theorem msisdn_eq : msisdn type element = answer (element.readMsisdn type) := by
  refine payload_bind (fun octets => ?_) element
  match octets with
  | [] | [_] => rfl
  | kind :: first :: rest =>
    have hlength : 1 ≤ (kind :: first :: rest).length := Nat.le_add_left ..
    rw [tail_eq hlength]
    rfl

theorem extension_eq : extension type element = answer (element.readExtension type) := by
  refine payload_bind (fun octets => ?_) element
  match octets with
  | [] | [_] => rfl
  | a :: b :: value =>
    have hlength : 2 ≤ (a :: b :: value).length := Nat.le_add_left ..
    rw [tail_eq hlength]
    rfl

end

/-! ## GTPv0 -/

namespace V0
open Catalog.V0

def flowLabel (element : Element) : Reached UInt16 :=
  if element.type = Code.flowLabelDataI ∨ element.type = Code.flowLabelSignalling then
    uint16 element.type element
  else refuse (.invalidType element.type)

def qosProfile (element : Element) : Reached (UInt8 × UInt8 × UInt8) := do
  let octets ← payload Code.qosProfile 3 element
  return (← octet octets 0, ← octet octets 1, ← octet octets 2)

theorem flowLabel_eq (element : Element) :
    flowLabel element = answer (Element.V0.flowLabel element) := by
  unfold flowLabel Element.V0.flowLabel
  split
  · exact uint16_eq element.type element
  · rfl

theorem qosProfile_eq (element : Element) :
    qosProfile element = answer (Element.V0.qosProfile element) :=
  payload_bind (fun | [] | [_] | [_, _] => rfl | _ :: _ :: _ :: _ => rfl) element

end V0

/-! ## GTPv1-C -/

namespace V1
open Catalog.V1

def teid (element : Element) : Reached UInt32 :=
  if element.type = Code.teidDataI ∨ element.type = Code.teidCPlane then
    uint32 element.type element
  else if element.type = Code.teidDataIi then do
    uint32At (← tail (← payload Code.teidDataIi 5 element) 1) 0
  else refuse (.invalidType element.type)

theorem teid_eq (element : Element) : teid element = answer (Element.V1.teid element) := by
  unfold teid Element.V1.teid
  split
  · exact uint32_eq element.type element
  · split
    · next htype =>
      rw [payload, Element.expect, if_pos htype]
      match element.payload with
      | [] | [_] | [_, _] | [_, _, _] | [_, _, _, _] => rfl
      | point :: a :: b :: c :: d :: rest =>
        have hfive : 5 ≤ (point :: a :: b :: c :: d :: rest).length := Nat.le_add_left ..
        have hone : 1 ≤ (point :: a :: b :: c :: d :: rest).length := Nat.le_add_left ..
        simp only [pure_eq, answer_ok, ok_bind, ensured hfive, tail_eq hone]
        rfl
    · rfl

end V1

/-! ## GTPv2-C -/

namespace V2
open Catalog.V2

def offendingType (element : Element) : Reached (Option UInt8) := do
  let octets ← payload Code.cause 2 element
  return octets[2]?

def isRemoteCause (element : Element) : Reached Bool :=
  return (← octet (← payload Code.cause 2 element) 1) &&& 1 != 0

def ambr (element : Element) : Reached (UInt32 × UInt32) := do
  let octets ← payload Code.ambr 8 element
  return (← uint32At octets 0, ← uint32At octets 4)

def indicationFlags (element : Element) : Reached Octets := answer (element.expect Code.indication)

def pdnAddress (element : Element) : Reached IpAddress := do
  let octets ← payload Code.paa 1 element
  let type := (← octet octets 0) &&& 7
  if type = Element.V2.ipv4Pdn then
    answer (ensureSize octets.length 5)
    return .v4 (← addressV4At octets 1)
  else if type = Element.V2.ipv6Pdn then
    answer (ensureSize octets.length 18)
    return .v6 (← addressV6At octets 2)
  else if type = Element.V2.dualPdn then
    answer (ensureSize octets.length 22)
    return .v4 (← addressV4At octets 18)
  else refuse (.malformed (.pdnType type))

def interfaceType (element : Element) : Reached UInt8 :=
  return (← octet (← payload Code.fteid 5 element) 0) &&& 0x3f

def teid (element : Element) : Reached UInt32 := do
  uint32At (← payload Code.fteid 5 element) 1

def fteidV4 (element : Element) : Reached (Option Ipv4Address) := do
  let octets ← payload Code.fteid 5 element
  if (← octet octets 0) &&& 0x80 = 0 then return none
  answer (ensureSize octets.length 9)
  return some (← addressV4At octets 5)

def fteidV6 (element : Element) : Reached (Option Ipv6Address) := do
  let octets ← payload Code.fteid 5 element
  let flags ← octet octets 0
  if flags &&& 0x40 = 0 then return none
  let offset := if flags &&& 0x80 ≠ 0 then 9 else 5
  answer (ensureSize octets.length (offset + 16))
  return some (← addressV6At octets offset)

def qci (element : Element) : Reached UInt8 := do
  octet (← payload Code.bearerQos 2 element) 1

def priorityLevel (element : Element) : Reached UInt8 :=
  return ((← octet (← payload Code.bearerQos 1 element) 0) >>> 2) &&& 0x0f

/-- A rate that is cut off is zero, and so is a priority that is missing. -/
def bearerQos (element : Element) : Reached Qos := do
  let priority := element.payload.head?.getD 0
  let rate (place : Nat) : UInt64 :=
    match Octets.split? 5 (element.payload.drop (2 + place * 5)) with
    | some (rate, _) => Octets.uint64 rate
    | none => 0
  return {
    qci := ← qci element
    priorityLevel := ← priorityLevel element
    preemptionCapability := priority &&& 0x40 == 0
    preemptionVulnerability := priority &&& 0x01 == 0
    mbrUplink := rate 0
    mbrDownlink := rate 1
    gbrUplink := rate 2
    gbrDownlink := rate 3 }

def ptmsiSignature (element : Element) : Reached UInt32 := do
  let octets ← payload Code.ptmsiSignature 3 element
  return Octets.uint32 [0, ← octet octets 0, ← octet octets 1, ← octet octets 2]

section
variable {octets : Octets} {offset : Nat}

theorem addressV4At_eq (h : offset ≤ octets.length) :
    (do answer (ensureSize octets.length (offset + 4)); addressV4At octets offset) =
      answer (Element.V2.addressV4 offset (octets.drop offset)) := by
  have hlength : octets.length = offset + (octets.drop offset).length := by
    rw [List.length_drop, Nat.add_sub_cancel' h]
  match hd : octets.drop offset with
  | [] | [_] | [_, _] | [_, _, _] =>
    rw [hd] at hlength
    rw [hlength, ensureSize, if_pos (by simp)]
    rfl
  | a :: b :: c :: d :: rest =>
    have hoctet (i : Nat) {o : UInt8} {more : Octets}
        (ho : (a :: b :: c :: d :: rest).drop i = o :: more) : octet octets (offset + i) = .ok o := by
      rw [← hd, List.drop_drop] at ho
      exact octet_of_drop ho
    rw [hd] at hlength
    rw [ensured (by rw [hlength]; simp), addressV4At]
    have h₀ : octet octets offset = .ok a := hoctet 0 rfl
    simp only [ok_bind, h₀, hoctet 1 rfl, hoctet 2 rfl, hoctet 3 rfl]
    rfl

theorem addressV6At_eq (h : offset ≤ octets.length) :
    (do answer (ensureSize octets.length (offset + 16)); addressV6At octets offset) =
      answer (Element.V2.addressV6 offset (octets.drop offset)) := by
  have hlength : octets.length = offset + (octets.drop offset).length := by
    rw [List.length_drop, Nat.add_sub_cancel' h]
  unfold Element.V2.addressV6
  by_cases hend : offset + 16 ≤ octets.length
  · have hsize : ((octets.drop offset).take 16).length = 16 :=
      List.length_take_of_le (by omega)
    rw [ensured hend, ok_bind, addressV6At, slice_eq (Nat.le_add_right ..) hend, ok_bind,
      ← List.take_drop, addressV6_eq hsize, Ipv6Address.ofOctets?, dif_pos hsize]
    rfl
  · have hsize : ((octets.drop offset).take 16).length ≠ 16 := by
      rw [List.length_take]
      omega
    rw [Ipv6Address.ofOctets?, dif_neg hsize, ← hlength, ensureSize,
      if_pos (Nat.lt_of_not_le hend)]
    rfl

end

section
variable (element : Element)

theorem offendingType_eq : offendingType element = answer (Element.V2.offendingType element) :=
  payload_bind (fun | [] | [_] | [_, _] => rfl | _ :: _ :: _ :: _ => rfl) element

theorem isRemoteCause_eq : isRemoteCause element = answer (Element.V2.isRemoteCause element) :=
  payload_bind (fun | [] | [_] => rfl | _ :: _ :: _ => rfl) element

theorem ambr_eq : ambr element = answer (Element.V2.ambr element) :=
  payload_bind (fun
    | [] | [_] | [_, _] | [_, _, _] | [_, _, _, _] | [_, _, _, _, _] | [_, _, _, _, _, _]
    | [_, _, _, _, _, _, _] => rfl
    | _ :: _ :: _ :: _ :: _ :: _ :: _ :: _ :: _ => rfl) element

theorem indicationFlags_eq :
    indicationFlags element = answer (Element.V2.indicationFlags element) := rfl

theorem pdnAddress_eq : pdnAddress element = answer (Element.V2.pdnAddress element) := by
  refine payload_bind (fun octets => ?_) element
  match octets with
  | [] => rfl
  | first :: rest =>
    have hfirst : 1 ≤ (first :: rest).length := Nat.le_add_left ..
    simp only [ensured hfirst, ok_bind, octet_cons_zero]
    split
    · have h : _ = answer (Element.V2.addressV4 1 rest) := addressV4At_eq hfirst
      rw [answer_bind, ← h, bind_assoc]
      rfl
    · split
      · match rest with
        | [] => rfl
        | bits :: address =>
          have htwo : 2 ≤ (first :: bits :: address).length := Nat.le_add_left ..
          have h : _ = answer (Element.V2.addressV6 2 address) := addressV6At_eq htwo
          rw [answer_bind, ← h, bind_assoc]
          rfl
      · split
        · by_cases hlong : 17 ≤ rest.length
          · have hend : 18 ≤ (first :: rest).length := Nat.succ_le_succ hlong
            have h := addressV4At_eq hend
            rw [List.drop_succ_cons] at h
            rw [split_eq hlong, answer_bind, ← h, bind_assoc]
            rfl
          · rw [Octets.split?_eq_none.2 (Nat.lt_of_not_le hlong), ensureSize,
              if_pos (by rw [List.length_cons]; omega), List.length_cons, Nat.add_comm rest.length]
            rfl
        · rfl

theorem interfaceType_eq : interfaceType element = answer (Element.V2.interfaceType element) := by
  rw [Element.V2.interfaceType, Element.V2.fteidParts, bind_assoc]
  exact payload_bind (fun
    | [] | [_] | [_, _] | [_, _, _] | [_, _, _, _] => rfl
    | _ :: _ :: _ :: _ :: _ :: _ => rfl) element

theorem teid_eq : teid element = answer (Element.V2.teid element) := by
  rw [Element.V2.teid, Element.V2.fteidParts, bind_assoc]
  exact payload_bind (fun
    | [] | [_] | [_, _] | [_, _, _] | [_, _, _, _] => rfl
    | _ :: _ :: _ :: _ :: _ :: _ => rfl) element

theorem fteidV4_eq : fteidV4 element = answer (Element.V2.fteidV4 element) := by
  rw [Element.V2.fteidV4, Element.V2.fteidParts, bind_assoc]
  refine payload_bind (fun octets => ?_) element
  match octets with
  | [] | [_] | [_, _] | [_, _, _] | [_, _, _, _] => rfl
  | flags :: a :: b :: c :: d :: addresses =>
    have hfive : 5 ≤ (flags :: a :: b :: c :: d :: addresses).length := Nat.le_add_left ..
    have h : _ = answer (Element.V2.addressV4 5 addresses) := addressV4At_eq hfive
    simp only [ensured hfive, ok_bind, octet_cons_zero, pure_eq]
    split
    · rfl
    · rw [answer_bind, ← h, bind_assoc]
      rfl

theorem fteidV6_eq : fteidV6 element = answer (Element.V2.fteidV6 element) := by
  rw [Element.V2.fteidV6, Element.V2.fteidParts, bind_assoc]
  refine payload_bind (fun octets => ?_) element
  match octets with
  | [] | [_] | [_, _] | [_, _, _] | [_, _, _, _] => rfl
  | flags :: a :: b :: c :: d :: addresses =>
    have hfive : 5 ≤ (flags :: a :: b :: c :: d :: addresses).length := Nat.le_add_left ..
    simp only [ensured hfive, ok_bind, octet_cons_zero, pure_eq]
    split
    · rfl
    · by_cases hv4 : flags &&& 0x80 = 0
      · have h : _ = answer (Element.V2.addressV6 5 addresses) := addressV6At_eq hfive
        simp only [hv4, ne_eq, not_true_eq_false, if_false, if_true]
        rw [answer_bind, ← h, bind_assoc]
        rfl
      · simp only [hv4, ne_eq, not_false_eq_true, if_false, if_true]
        by_cases hlong : 4 ≤ addresses.length
        · have hnine : 9 ≤ (flags :: a :: b :: c :: d :: addresses).length :=
            Nat.add_le_add_right hlong 5
          have h : _ = answer (Element.V2.addressV6 9 (addresses.drop 4)) := addressV6At_eq hnine
          rw [split_eq hlong, answer_bind, ← h, bind_assoc]
          rfl
        · have hlength : (flags :: a :: b :: c :: d :: addresses).length = 5 + addresses.length :=
            Nat.add_comm addresses.length 5
          rw [Octets.split?_eq_none.2 (Nat.lt_of_not_le hlong), hlength, ensureSize,
            if_pos (by omega)]
          rfl

theorem qci_eq : qci element = answer (Element.V2.qci element) :=
  payload_bind (fun | [] | [_] => rfl | _ :: _ :: _ => rfl) element

theorem priorityLevel_eq : priorityLevel element = answer (Element.V2.priorityLevel element) := by
  rw [Element.V2.priorityLevel, Element.readUInt8, bind_assoc]
  exact payload_bind (fun | [] => rfl | _ :: _ => rfl) element

theorem bearerQos_eq : bearerQos element = answer (Element.V2.bearerQos element) := by
  rw [bearerQos, qci, priorityLevel, payload, payload, Element.V2.bearerQos, Element.expect]
  split
  · match element.payload with
    | [] | [_] => rfl
    | priority :: qci :: rates => rfl
  · rfl

/-- A zero before a number does not change it. -/
private theorem uint32_zero (octets : Octets) :
    Octets.uint32 (0 :: octets) = Octets.uint32 octets := rfl

theorem ptmsiSignature_eq :
    ptmsiSignature element = answer (Element.V2.ptmsiSignature element) := by
  simp only [ptmsiSignature, uint32_zero]
  exact payload_bind (fun | [] | [_] | [_, _] => rfl | _ :: _ :: _ :: _ => rfl) element

end
end V2

/-! ## GTP' -/

namespace Prime
open Catalog.Prime

def sequenceNumbers (element : Element) : Reached (List UInt16) :=
  if element.type = Code.sequenceNumbersOfReleasedPackets
      ∨ element.type = Code.sequenceNumbersOfCancelledPackets
      ∨ element.type = Code.requestsResponded then sequences element.payload
  else refuse (.invalidType element.type)

def nodeAddress (element : Element) : Reached IpAddress :=
  if element.type = Code.chargingGatewayAddress ∨ element.type = Code.addressOfRecommendedNode then
    address element.payload
  else refuse (.invalidType element.type)

theorem sequenceNumbers_eq (element : Element) :
    sequenceNumbers element = answer (Element.Prime.sequenceNumbers element) := by
  unfold sequenceNumbers Element.Prime.sequenceNumbers
  split
  · exact sequences_eq element.payload
  · rfl

theorem nodeAddress_eq (element : Element) :
    nodeAddress element = answer (Element.Prime.nodeAddress element) := by
  unfold nodeAddress Element.Prime.nodeAddress
  split
  · exact address_eq element.payload
  · rfl

end Prime

end Reached
end GtpControl
