import GtpControl.Proofs.ElementOrigins

/-! # Packed data records: what fits into an element, and what is read from one

The records of a packet are counted in one octet, each has its length in two, and all of them go into a
payload whose length has two octets again. Octets are read as a packet exactly when they start with what
is written of it. -/
namespace GtpControl
open Catalog.Prime

namespace DataRecordPacket

/-- A record after its length. -/
def recordOctets (record : Octets) : Octets := Octets.ofNat 2 record.length ++ record

/-- Count, format and version, and then the records. -/
def octets (packet : DataRecordPacket) : Octets :=
  UInt8.ofNat packet.records.length :: packet.format
    :: Octets.ofUInt16 packet.formatVersion ++ packet.records.flatMap recordOctets

/-- Four octets, and two more for each record than it has. -/
def size (packet : DataRecordPacket) : Nat :=
  4 + total (packet.records.map fun record => 2 + record.length)

/-- The count and the lengths of the records fit their fields. -/
structure Fits (packet : DataRecordPacket) : Prop where
  count : packet.records.length ≤ 255
  lengths : ∀ record ∈ packet.records, record.length ≤ maxLength

section
variable {packet : DataRecordPacket} {written : Octets} {records : List Octets}

/-! ## Writing -/

theorem encodeRecord_eq_ok {record octets : Octets} :
    encodeRecord record = .ok octets ↔
      record.length ≤ maxLength ∧ octets = recordOctets record := by
  simp only [encodeRecord, bind_eq_ok, lengthField_eq_ok, pure_eq, Except.ok.injEq]
  constructor
  · rintro ⟨field, ⟨hle, rfl⟩, rfl⟩
    exact ⟨hle, rfl⟩
  · rintro ⟨hle, rfl⟩
    exact ⟨_, ⟨hle, rfl⟩, rfl⟩

theorem encode_eq_ok :
    packet.encode = .ok written ↔ packet.Fits ∧ written = packet.octets := by
  rw [encode]
  by_cases hcount : 255 < packet.records.length
  · simp only [hcount, if_true, throw_eq, error_bind, reduceCtorEq, false_iff, not_and]
    exact fun fits => absurd hcount (Nat.not_lt.2 fits.count)
  · simp only [hcount, if_false, pure_eq, bind_eq_ok, Except.ok.injEq,
      mapM_eq_ok_map fun _ _ => encodeRecord_eq_ok]
    constructor
    · rintro ⟨parts, ⟨lengths, rfl⟩, rfl⟩
      exact ⟨⟨Nat.not_lt.1 hcount, lengths⟩, rfl⟩
    · rintro ⟨fits, rfl⟩
      exact ⟨_, ⟨fits.lengths, rfl⟩, rfl⟩

@[simp] theorem length_recordOctets (record : Octets) :
    (recordOctets record).length = 2 + record.length := by
  rw [recordOctets, List.length_append, Octets.length_ofNat]

@[simp] theorem length_octets (packet : DataRecordPacket) : packet.octets.length = packet.size := by
  have hrecords := total_map_length recordOctets packet.records
  simp only [length_recordOctets] at hrecords
  simp only [octets, size, hrecords, List.length_cons, List.length_append, Octets.length_ofUInt16]

/-! ## Reading -/

/-- A record is taken off after its length. -/
theorem decodeRecords_recordOctets {record : Octets} (h : record.length ≤ maxLength) (count : Nat)
    (rest : Octets) :
    decodeRecords (count + 1) (recordOctets record ++ rest) =
      (decodeRecords count rest).map (record :: ·) := by
  obtain ⟨a, b, hfield, hlength⟩ := exists_lengthField h
  rw [recordOctets, hfield, List.append_assoc]
  simp only [List.cons_append, List.nil_append, decodeRecords, hlength, Octets.split?_append rfl]
  cases decodeRecords count rest <;> rfl

/-- Records are read exactly from octets that start with them. -/
theorem decodeRecords_eq_ok {count : Nat} {octets : Octets} :
    decodeRecords count octets = .ok records ↔
      records.length = count ∧ (∀ record ∈ records, record.length ≤ maxLength) ∧
        ∃ rest, octets = records.flatMap recordOctets ++ rest := by
  constructor
  · intro h
    induction count generalizing octets records with
    | zero =>
      unfold decodeRecords at h
      cases h
      exact ⟨rfl, by simp, octets, rfl⟩
    | succ count ih =>
      match octets with
      | [] | [_] => cases h
      | a :: b :: body =>
        rw [decodeRecords] at h
        split at h
        · cases h
        · next record more hs =>
          simp only [bind_eq_ok, pure_eq, Except.ok.injEq] at h
          obtain ⟨others, ho, rfl⟩ := h
          obtain ⟨rfl, hlength⟩ := Octets.split?_eq_some.1 hs
          obtain ⟨rfl, lengths, rest, rfl⟩ := ih ho
          have hfield : Octets.ofNat 2 record.length = [a, b] := by
            rw [hlength]
            exact Octets.ofNat_toNat rfl
          have hrecord : record.length ≤ maxLength := hlength ▸ toNat_two_le a b
          refine ⟨rfl, List.forall_mem_cons.2 ⟨hrecord, lengths⟩, rest, ?_⟩
          simp only [List.flatMap_cons, recordOctets, hfield, List.append_assoc, List.cons_append,
            List.nil_append]
  · rintro ⟨rfl, lengths, rest, rfl⟩
    induction records with
    | nil =>
      unfold decodeRecords
      rfl
    | cons record records ih =>
      obtain ⟨hrecord, lengths⟩ := List.forall_mem_cons.1 lengths
      rw [List.length_cons, List.flatMap_cons, List.append_assoc,
        decodeRecords_recordOctets hrecord, ih lengths]
      rfl

/-- A packet is read exactly from octets that start with what is written of it. -/
theorem decode_eq_ok {octets : Octets} :
    decode octets = .ok packet ↔ packet.Fits ∧ ∃ rest, octets = packet.octets ++ rest := by
  constructor
  · intro h
    match octets with
    | [] | [_] | [_, _] | [_, _, _] => cases h
    | count :: format :: a :: b :: body =>
      simp only [decode, bind_eq_ok, pure_eq, Except.ok.injEq] at h
      obtain ⟨records, hr, rfl⟩ := h
      obtain ⟨hcount, lengths, rest, rfl⟩ := decodeRecords_eq_ok.1 hr
      have hle : records.length ≤ 255 := hcount ▸ Nat.le_of_lt_succ count.toNat_lt
      refine ⟨⟨hle, lengths⟩, rest, ?_⟩
      simp only [DataRecordPacket.octets, hcount, UInt8.ofNat_toNat, Octets.ofUInt16_uint16,
        List.cons_append, List.nil_append]
  · rintro ⟨fits, rest, rfl⟩
    obtain ⟨a, b, hversion, hread⟩ := Octets.exists_ofUInt16 packet.formatVersion
    have hcount : (UInt8.ofNat packet.records.length).toNat = packet.records.length :=
      UInt8.toNat_ofNat_of_lt' (Nat.lt_succ_of_le fits.count)
    have hrecords := decodeRecords_eq_ok.2 ⟨rfl, fits.lengths, rest, rfl⟩
    simp only [DataRecordPacket.octets, hversion, List.cons_append, List.nil_append, decode, hcount,
      hrecords, hread, ok_bind, pure_eq]

end
end DataRecordPacket

/-! ## Elements -/

namespace Element
variable {packet : DataRecordPacket} {element : Element}

/-- Any payload that fits the length field makes an element of a type that is not divided further. -/
theorem make_eq_ok_of_sized {version : Version} {type inst : UInt8} {payload : Octets}
    (hf : version.form? type = some .sized) :
    make version type inst payload = .ok element ↔
      payload.length ≤ maxLength ∧ element = plain version type inst payload := by
  have hg : version.isGrouped type = false := by
    rw [Version.isGrouped, hf]
    rfl
  rw [make]
  by_cases hsize : maxLength < payload.length
  · simp [hsize]
  · simp [hsize, hf, hg, plain, eq_comm, Nat.not_lt.1 hsize]

theorem Prime.ofDataRecordPacket_eq_ok :
    Prime.ofDataRecordPacket packet = .ok element ↔
      packet.Fits ∧ packet.size ≤ maxLength ∧
        element = Prime.ofPayload Code.dataRecordPacket packet.octets := by
  have hf : Version.prime.form? Code.dataRecordPacket = some .sized := rfl
  simp only [Prime.ofDataRecordPacket, bind_eq_ok, DataRecordPacket.encode_eq_ok,
    make_eq_ok_of_sized hf]
  constructor
  · rintro ⟨written, ⟨fits, rfl⟩, hsize, rfl⟩
    exact ⟨fits, DataRecordPacket.length_octets packet ▸ hsize, rfl⟩
  · rintro ⟨fits, hsize, rfl⟩
    exact ⟨_, ⟨fits, rfl⟩, (DataRecordPacket.length_octets packet).symm ▸ hsize, rfl⟩

theorem Prime.dataRecordPacket_eq_ok :
    Prime.dataRecordPacket element = .ok packet ↔
      element.type = Code.dataRecordPacket ∧ packet.Fits ∧
        ∃ rest, element.payload = packet.octets ++ rest := by
  rw [Prime.dataRecordPacket, expect]
  by_cases ht : element.type = Code.dataRecordPacket
  · simp [ht, DataRecordPacket.decode_eq_ok]
  · simp [ht]

/-- A packet goes into an element exactly when its records can be counted in one octet, each has a length
that fits, and all of them fit together. The element is then written and read back whatever goes after
it, and holds the packet. The packet that any element holds is written as the start of the payload, and
what goes after its records there is left out. -/
theorem packing_records (packet : DataRecordPacket) :
    ((∃ element, Prime.ofDataRecordPacket packet = .ok element) ↔
      packet.records.length ≤ 255 ∧ (∀ record ∈ packet.records, record.length ≤ 65535) ∧
        packet.size ≤ 65535) ∧
    (∀ element, Prime.ofDataRecordPacket packet = .ok element →
      ∃ octets, encode .prime element = .ok octets ∧ ∀ tail,
        decode .prime (octets ++ tail) = .ok (element, tail) ∧
          Prime.dataRecordPacket element = .ok packet) ∧
    ∀ element, Prime.dataRecordPacket element = .ok packet →
      packet.size ≤ element.payload.length ∧
        packet.encode = .ok (element.payload.take packet.size) ∧
        (element.payload.length ≤ 65535 → Prime.ofDataRecordPacket packet =
          .ok (Prime.ofPayload Code.dataRecordPacket (element.payload.take packet.size))) := by
  refine ⟨⟨?_, ?_⟩, fun element h => ?_, fun element h => ?_⟩
  · rintro ⟨element, h⟩
    obtain ⟨fits, hsize, -⟩ := Prime.ofDataRecordPacket_eq_ok.1 h
    exact ⟨fits.count, fits.lengths, hsize⟩
  · rintro ⟨hcount, lengths, hsize⟩
    exact ⟨_, Prime.ofDataRecordPacket_eq_ok.2 ⟨⟨hcount, lengths⟩, hsize, rfl⟩⟩
  · have hb : Built .prime element := .ofValue (Prime.OfValue.dataRecordPacket h)
    obtain ⟨fits, hsize, rfl⟩ := Prime.ofDataRecordPacket_eq_ok.1 h
    have hfits : Fits .prime (Prime.ofPayload Code.dataRecordPacket packet.octets) := fun _ =>
      (DataRecordPacket.length_octets packet).symm ▸ hsize
    obtain ⟨octets, he, hread⟩ := exists_encoding hb hfits
    refine ⟨octets, he, fun tail => ⟨hread tail, ?_⟩⟩
    exact Prime.dataRecordPacket_eq_ok.2 ⟨rfl, fits, [], (List.append_nil _).symm⟩
  · obtain ⟨-, fits, rest, hp⟩ := Prime.dataRecordPacket_eq_ok.1 h
    have hle : packet.size ≤ element.payload.length := by
      rw [hp, List.length_append, DataRecordPacket.length_octets]
      exact Nat.le_add_right ..
    have htake : element.payload.take packet.size = packet.octets := by
      rw [hp, ← DataRecordPacket.length_octets, List.take_left]
    rw [htake]
    refine ⟨hle, DataRecordPacket.encode_eq_ok.2 ⟨fits, rfl⟩, fun hsize => ?_⟩
    exact Prime.ofDataRecordPacket_eq_ok.2 ⟨fits, hle.trans hsize, rfl⟩

/-- One record may take all of the payload that the head leaves, and not an octet more; empty records
around another one are read back, and octets after them are not. -/
theorem packing_records_boundary :
    (∃ element, Prime.ofDataRecordPacket ⟨1, 0x1301, [List.replicate 65529 0]⟩ = .ok element) ∧
    (¬∃ element, Prime.ofDataRecordPacket ⟨1, 0x1301, [List.replicate 65530 0]⟩ = .ok element) ∧
    Prime.dataRecordPacket (Prime.ofPayload 252 [3, 1, 0x13, 1, 0, 0, 0, 1, 0xaa, 0, 0]) =
      .ok ⟨1, 0x1301, [[], [0xaa], []]⟩ ∧
    DataRecordPacket.encode ⟨1, 0x1301, [[], [0xaa], []]⟩ =
      .ok [3, 1, 0x13, 1, 0, 0, 0, 1, 0xaa, 0, 0] := by
  have hsize (n : Nat) : DataRecordPacket.size ⟨1, 0x1301, [List.replicate n 0]⟩ = 6 + n := by
    simp only [DataRecordPacket.size, total, List.map_cons, List.map_nil, List.length_replicate]
    omega
  have hfull := packing_records ⟨1, 0x1301, [List.replicate 65529 0]⟩
  have hover := packing_records ⟨1, 0x1301, [List.replicate 65530 0]⟩
  have hsmall := packing_records ⟨1, 0x1301, [[], [0xaa], []]⟩
  rw [hsize] at hfull hover
  refine ⟨hfull.1.2 ⟨Nat.le_add_left 1 254, ?_, Nat.le_refl _⟩, fun h => ?_, ?_, ?_⟩
  · rw [List.forall_mem_singleton, List.length_replicate]
    exact Nat.le_add_right 65529 6
  · exact absurd (hover.1.1 h).2.2 (Nat.not_succ_le_self _)
  · obtain ⟨octets, -, hread⟩ := hsmall.2.1 _ rfl
    exact (hread []).2
  · exact (hsmall.2.2 (Prime.ofPayload 252 [3, 1, 0x13, 1, 0, 0, 0, 1, 0xaa, 0, 0, 9, 9]) rfl).2.1

end Element
end GtpControl
