import GtpControl.Element.Reading
import GtpControl.Proofs.Positions.Basic

/-! # Values, read by position -/
namespace GtpControl
namespace Reached

/-! ## Names and addresses -/

/-- The octets of the labels from a position on. -/
def labels (data : Octets) (offset : Nat) : Reached (List Octets) :=
  if offset < data.length then do
    let size ← octet data offset
    let start := offset + 1
    let stop := start + size.toNat
    if data.length < stop then refuse (.invalidLength size.toNat (← minus data.length start))
    let label ← slice data start stop
    return label :: (← labels data stop)
  else pure []
termination_by data.length - offset

def apn (data : Octets) : Reached String :=
  return ".".intercalate
    ((← labels data 0).map fun label => String.ofList (Text.decodeLossy label))

def addressV4At (data : Octets) (offset : Nat) : Reached Ipv4Address :=
  return ⟨← octet data offset, ← octet data (offset + 1), ← octet data (offset + 2),
    ← octet data (offset + 3)⟩

/-- The address that sixteen octets are; there have to be exactly so many. -/
def addressV6 (octets : Octets) : Reached Ipv6Address :=
  match Ipv6Address.ofOctets? octets with
  | some address => pure address
  | none => throw .outside

def addressV6At (data : Octets) (offset : Nat) : Reached Ipv6Address := do
  addressV6 (← slice data offset (offset + 16))

/-- An address of four or sixteen octets. -/
def address (data : Octets) : Reached IpAddress :=
  if data.length = 4 then return .v4 (← addressV4At data 0)
  else if data.length = 16 then return .v6 (← addressV6 data)
  else do
    answer (ensureSize data.length 4)
    refuse (.malformed (.addressSize data.length))

def endUserAddress (data : Octets) : Reached (Option IpAddress) := do
  answer (ensureSize data.length 2)
  let octets ← tail data 2
  let pdpType ← octet data 1
  if octets.isEmpty then pure none
  else if (pdpType = EndUserAddress.ipv4Type ∧ octets.length = 4)
      ∨ (pdpType = EndUserAddress.ipv6Type ∧ octets.length = 16) then
    return some (← address octets)
  else if pdpType = EndUserAddress.dualType ∧ octets.length = 20 then
    return some (← address (← slice octets 0 4))
  else refuse (.malformed (.pdpAddress pdpType octets.length))

def plmn (data : Octets) : Reached Plmn := do
  answer (ensureSize data.length 3)
  answer (Plmn.decode [← octet data 0, ← octet data 1, ← octet data 2])

/-! ## Charging records -/

/-- The first record, and the octets after it. -/
def record (data : Octets) : Reached (Octets × Octets) := do
  answer (ensureSize data.length 2)
  let length := Octets.toNat [← octet data 0, ← octet data 1]
  let data ← advance 2 data
  if data.length < length then refuse (.invalidLength length data.length)
  return (← slice data 0 length, ← advance length data)

def records : (count : Nat) → Octets → Reached (List Octets)
  | 0, _ => pure []
  | count + 1, data => do
    let (first, rest) ← record data
    return first :: (← records count rest)

def packet (data : Octets) : Reached DataRecordPacket := do
  answer (ensureSize data.length 4)
  let count ← octet data 0
  let format ← octet data 1
  let formatVersion ← uint16At data 2
  return ⟨format, formatVersion, ← records count.toNat (← advance 4 data)⟩

/-- The numbers in the given number of chunks of two octets. -/
def chunks : (count : Nat) → Octets → Reached (List UInt16)
  | 0, _ => pure []
  | count + 1, data => do
    let chunk ← slice data 0 2
    return (← uint16At chunk 0) :: (← chunks count (← advance 2 data))

def sequences (data : Octets) : Reached (List UInt16) :=
  if data.length % 2 ≠ 0 then refuse (.malformed (.oddSequenceList data.length))
  else chunks (data.length / 2) data

/-! ## They give the same answers -/

theorem labels_eq {data : Octets} {offset : Nat} (h : offset ≤ data.length) :
    labels data offset = answer (Apn.split (data.drop offset)) := by
  induction hn : data.length - offset using Nat.strongRecOn generalizing offset with
  | _ n ih =>
    unfold labels
    cases hdrop : data.drop offset with
    | nil =>
      have hend : data.length ≤ offset := List.drop_eq_nil_iff.1 hdrop
      rw [if_neg (Nat.not_lt.2 hend), Apn.split]
      rfl
    | cons size rest =>
      have hlength := congrArg List.length hdrop
      rw [List.length_drop, List.length_cons] at hlength
      have hrest : data.drop (offset + 1) = rest := by
        rw [List.drop_add_one_eq_tail_drop, hdrop]
        rfl
      rw [if_pos (by omega), Apn.split]
      simp only [octet_of_drop hdrop, ok_bind]
      by_cases hs : rest.length < size.toNat
      · have hremaining : data.length - (offset + 1) = rest.length := by omega
        rw [if_pos hs, if_pos (by omega), minus_eq (by omega), hremaining]
        rfl
      · have hlabel : (data.take (offset + 1 + size.toNat)).drop (offset + 1) =
            rest.take size.toNat := by rw [← List.take_drop, hrest]
        have hmore : data.drop (offset + 1 + size.toNat) = rest.drop size.toNat := by
          rw [← List.drop_drop, hrest]
        have hnext := ih (data.length - (offset + 1 + size.toNat)) (by omega)
          (by omega : offset + 1 + size.toNat ≤ data.length) rfl
        rw [hmore] at hnext
        rw [if_neg hs, if_neg (by omega), slice_eq (by omega) (by omega), hlabel]
        simp only [ok_bind, hnext, answer_bind, pure_eq, answer_ok]

theorem apn_eq (data : Octets) : apn data = answer (Apn.decode data) := by
  rw [apn, Apn.decode, labels_eq (Nat.zero_le _), List.drop_zero]
  cases Apn.split data <;> rfl

theorem addressV6_eq {octets : Octets} (h : octets.length = 16) :
    addressV6 octets = .ok ⟨octets, h⟩ := by
  rw [addressV6, Ipv6Address.ofOctets?, dif_pos h]
  rfl

theorem address_eq (data : Octets) : address data = answer (IpAddress.decode data) := by
  unfold address IpAddress.decode
  by_cases h₄ : data.length = 4
  · match data, h₄ with
    | [a, b, c, d], _ => rfl
  · have hshort : Ipv4Address.ofOctets? data = none := by
      unfold Ipv4Address.ofOctets?
      split
      · exact absurd rfl h₄
      · rfl
    rw [if_neg h₄, hshort]
    by_cases h₁₆ : data.length = 16
    · rw [if_pos h₁₆, addressV6_eq h₁₆, Ipv6Address.ofOctets?, dif_pos h₁₆]
      rfl
    · rw [if_neg h₁₆, Ipv6Address.ofOctets?, dif_neg h₁₆]
      unfold ensureSize
      split <;> rfl

theorem endUserAddress_eq (data : Octets) :
    endUserAddress data = answer (EndUserAddress.decode data) := by
  match data with
  | [] | [_] => rfl
  | organisation :: pdpType :: octets =>
    have hlength : 2 ≤ (organisation :: pdpType :: octets).length := Nat.le_add_left ..
    rw [endUserAddress, ensured hlength, tail_eq hlength]
    simp only [ok_bind, octet_cons_succ, octet_cons_zero, List.drop_succ_cons, List.drop_zero,
      EndUserAddress.decode, address_eq]
    split
    · rfl
    · split
      · cases IpAddress.decode octets <;> rfl
      · split
        · next hdual =>
          rw [slice_eq (Nat.zero_le 4) (by omega)]
          cases hd : IpAddress.decode (octets.take 4) <;> simp [hd]
        · rfl

theorem plmn_eq (data : Octets) : plmn data = answer (Plmn.decode data) := by
  match data with
  | [] | [_] | [_, _] => rfl
  | first :: second :: third :: rest =>
    rw [plmn, ensured (Nat.le_add_left 3 rest.length)]
    rfl

theorem record_eq (data : Octets) (count : Nat) :
    (do let (first, rest) ← record data
        return first :: (← answer (DataRecordPacket.decodeRecords count rest))) =
      answer (DataRecordPacket.decodeRecords (count + 1) data) := by
  match data with
  | [] | [_] => rfl
  | a :: b :: rest =>
    have hlength : 2 ≤ (a :: b :: rest).length := Nat.le_add_left ..
    rw [record, ensured hlength, advance_eq hlength]
    simp only [ok_bind, octet_cons_zero, octet_cons_succ, List.drop_succ_cons, List.drop_zero]
    rw [DataRecordPacket.decodeRecords]
    by_cases hn : rest.length < Octets.toNat [a, b]
    · rw [if_pos hn, Octets.split?_eq_none.2 hn]
      rfl
    · have hle := Nat.le_of_not_lt hn
      rw [if_neg hn, slice_eq (Nat.zero_le _) hle, advance_eq hle, split_eq hle]
      simp only [ok_bind, List.drop_zero, pure_eq, answer_bind, answer_ok]

theorem records_eq (count : Nat) (data : Octets) :
    records count data = answer (DataRecordPacket.decodeRecords count data) := by
  induction count generalizing data with
  | zero =>
    unfold DataRecordPacket.decodeRecords
    rfl
  | succ count ih => simp only [records, ih, record_eq]

theorem packet_eq (data : Octets) : packet data = answer (DataRecordPacket.decode data) := by
  match data with
  | [] | [_] | [_, _] | [_, _, _] => rfl
  | count :: format :: a :: b :: rest =>
    have hlength : 4 ≤ (count :: format :: a :: b :: rest).length := Nat.le_add_left ..
    rw [packet, ensured hlength, advance_eq hlength]
    simp only [uint16At, ok_bind, octet_cons_zero, octet_cons_succ, List.drop_succ_cons,
      List.drop_zero, records_eq, pure_eq, DataRecordPacket.decode, answer_bind, answer_ok]

/-- Octets without one left over are cut into chunks of two. -/
private theorem chunks_eq {data : Octets} (h : data.length % 2 = 0) :
    ∃ numbers, Element.Prime.sequences? data = some numbers ∧
      chunks (data.length / 2) data = .ok numbers := by
  induction data using Element.Prime.sequences?.induct with
  | case1 => exact ⟨[], rfl, rfl⟩
  | case2 => simp at h
  | case3 a b rest ih =>
    obtain ⟨numbers, hs, hc⟩ := ih ((Nat.add_mod_right rest.length 2).symm.trans h)
    have hhalf : (a :: b :: rest).length / 2 = rest.length / 2 + 1 :=
      Nat.add_div_right rest.length Nat.two_pos
    have hlength : 2 ≤ (a :: b :: rest).length := Nat.le_add_left ..
    refine ⟨Octets.uint16 [a, b] :: numbers, by rw [Element.Prime.sequences?, hs]; rfl, ?_⟩
    rw [hhalf, chunks, slice_eq (Nat.zero_le 2) hlength, advance_eq hlength]
    simp only [ok_bind, uint16At, List.take_succ_cons, List.take_zero, List.drop_succ_cons,
      List.drop_zero, octet_cons_zero, octet_cons_succ, hc, pure_eq]

private theorem sequences?_odd {data : Octets} (h : data.length % 2 ≠ 0) :
    Element.Prime.sequences? data = none := by
  induction data using Element.Prime.sequences?.induct with
  | case1 => exact absurd rfl h
  | case2 => rfl
  | case3 a b rest ih =>
    rw [Element.Prime.sequences?, ih fun he => h ((Nat.add_mod_right rest.length 2).trans he)]
    rfl

theorem sequences_eq (data : Octets) :
    sequences data = answer (match Element.Prime.sequences? data with
      | some numbers => pure numbers
      | none => throw (.malformed (.oddSequenceList data.length))) := by
  unfold sequences
  split
  · next hodd =>
    rw [sequences?_odd hodd]
    rfl
  · next heven =>
    obtain ⟨numbers, hs, hc⟩ := chunks_eq (Decidable.not_not.1 heven)
    rw [hs, hc]
    rfl

end Reached
end GtpControl
