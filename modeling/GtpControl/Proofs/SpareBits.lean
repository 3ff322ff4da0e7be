import GtpControl.Proofs.ElementGrammar
import GtpControl.Proofs.SelfDelimiting

/-! # Reading and writing again: only spare bits change

A message without slots keeps its elements in the order in which they came. It is written as it was
read, but for the bits of the datagram that have no meaning, which get the values that writers give
them. -/
namespace GtpControl

namespace Octets

/-- Other octets at a position, as many as there are new ones. -/
def overwrite (position : Nat) (octets new : Octets) : Octets :=
  octets.take position ++ new ++ octets.drop (position + new.length)

theorem overwrite_append {position : Nat} {front old new : Octets} (hp : front.length = position)
    (h : old.length = new.length) (rest : Octets) :
    overwrite position (front ++ old ++ rest) new = front ++ new ++ rest := by
  have hl : (front ++ old).length = position + new.length := by rw [List.length_append, hp, h]
  rw [overwrite, List.drop_left' hl, List.append_assoc front old, List.take_left' hp]

end Octets

namespace Version

/-- Elements of GTPv2 with the upper half of each instance octet cleared. Their payloads stay as they
are. -/
def clearMarks : Octets → Octets
  | type :: high :: low :: mark :: rest =>
    type :: high :: low :: (mark &&& 0x0f) :: rest.take (Octets.toNat [high, low])
      ++ clearMarks (rest.drop (Octets.toNat [high, low]))
  | octets => octets
termination_by octets => octets.length
decreasing_by
  simp only [List.length_cons, List.length_drop]
  omega

/-- Elements as they are written when they were read from these octets. -/
def cleared (version : Version) (octets : Octets) : Octets :=
  if version.hasInstance then clearMarks octets else octets

/-- A datagram with the values that writers give to the bits that have no meaning: the three octets
after the packet number of GTPv0, the octet for the first extension header of GTPv1-C when there are to
be none, the upper halves of the instance octets of GTPv2, and the last octets of the long header of
GTP'. -/
def respared (flags : UInt8) (octets : Octets) : Version → Octets
  | .v0 => octets.overwrite 9 [0xff, 0xff, 0xff]
  | .v1 => if flags &&& 7 != 0 && flags &&& 4 == 0 then octets.overwrite 11 [0] else octets
  | .v2 =>
    octets.take (Header.announced flags .v2) ++ clearMarks (octets.drop (Header.announced flags .v2))
  | .prime => if flags &&& 1 != 0 then octets.overwrite 6 (List.replicate 14 0xff) else octets

end Version

/-! ## Elements -/

namespace Element
variable {version : Version} {part : Octets} {shell : Element}

/-- The length of a payload is written as it was read. -/
private theorem ofNat_length {high low : UInt8} {payload : Octets}
    (h : Octets.toNat [high, low] = payload.length) :
    Octets.ofNat 2 (min payload.length maxLength) = [high, low] := by
  rw [← h, Nat.min_eq_left (toNat_two_le high low)]
  exact Octets.ofNat_toNat rfl

theorem octets_of_frame (frame : Frame version part shell) (hv : version.hasInstance = false) :
    shell.octets version = part := by
  cases frame with
  | @fixed type payload hw =>
    have hl : version.hasLength type = false := by rw [Version.hasLength_eq, hw]
    simp only [octets, hl, Bool.false_eq_true, if_false]
  | @sized type inst front payload hl hn =>
    cases hn with
    | plain _ hn =>
      simp only [octets, hl, hv, if_true, Bool.false_eq_true, if_false, ofNat_length hn,
        List.append_nil]
      rfl
    | marked hm => cases hv.symm.trans hm

/-- The first frame is cleared apart from the others. -/
theorem clearMarks_frame (frame : Frame version part shell) (hv : version.hasInstance = true)
    (more : Octets) :
    Version.clearMarks (part ++ more) = shell.octets version ++ Version.clearMarks more := by
  cases frame with
  | @fixed type payload hw =>
    have hl : version.hasLength type = false := by rw [Version.hasLength_eq, hw]
    rw [Version.hasInstance] at hv
    rw [Version.hasLength, hv] at hl
    cases hl
  | @sized type inst front payload hl hn =>
    cases hn with
    | plain hp => cases hp.symm.trans hv
    | @marked high low mark _ hn =>
      simp only [octets, hl, hv, if_true, ofNat_length hn, List.cons_append, List.nil_append]
      rw [Version.clearMarks, hn, List.take_left, List.drop_left]
      rfl

theorem Encodes.frame {element : Element} (h : Encodes version part element) :
    ∃ shell, Frame version part shell ∧ shell.octets version = element.octets version := by
  cases h with
  | leaf frame hg => exact ⟨_, frame, rfl⟩
  | group frame hg hp payload => exact ⟨_, frame, rfl⟩

/-- Elements are written as they were read, but for the spare bits beside their instances. -/
theorem Splits.flatMap_octets {payload : Octets} {parts : List (Octets × Element)}
    (h : Splits version payload parts) :
    (parts.map (·.2)).flatMap (octets version) = version.cleared payload := by
  obtain ⟨encodes, rfl⟩ := h
  induction parts with
  | nil =>
    unfold Version.cleared
    split
    · rw [List.flatMap_nil, Version.clearMarks]
      · rfl
      · simp
    · rfl
  | cons part parts ih =>
    obtain ⟨hpart, hparts⟩ := List.forall_mem_cons.1 encodes
    obtain ⟨shell, frame, ho⟩ := hpart.frame
    have ih := ih hparts
    rw [List.map_cons, List.flatMap_cons, List.flatMap_cons, ih, ← ho]
    cases hv : version.hasInstance with
    | true =>
      simp only [Version.cleared, hv, if_true]
      exact (clearMarks_frame frame hv _).symm
    | false =>
      simp only [Version.cleared, hv, Bool.false_eq_true, if_false, octets_of_frame frame hv]

end Element

/-! ## Headers -/

theorem LengthPolicy.payload_strict_eq_ok {headerSize declared : Nat} {payload rest : Octets} :
    strict.payload headerSize declared rest = .ok payload ↔
      declared ≤ rest.length ∧ payload = rest.take declared := by
  unfold LengthPolicy.payload
  split
  · next h => simp only [h, true_and, pure_eq, Except.ok.injEq, eq_comm]
  · next h => simp only [h, false_and, throw_eq, reduceCtorEq]

section
variable {spare new : Octets} {length : Nat}

theorem V0Header.overwrite_front {header : V0Header} (h : spare.length = spareSize)
    (hn : new.length = spareSize) (rest : Octets) :
    (header.front length spare ++ rest).overwrite 9 new = header.front length new ++ rest := by
  have hfront : ∀ spare, header.front length spare ++ rest =
      (header.flags :: header.type :: Octets.ofNat 2 length ++ Octets.ofUInt16 header.sequence
        ++ Octets.ofUInt16 header.flowLabel ++ [header.packetNumber]) ++ spare
        ++ (Octets.ofUInt64 header.tid ++ rest) := fun spare => by
    simp only [front, List.append_assoc, List.cons_append, List.nil_append]
  rw [hfront, hfront]
  exact Octets.overwrite_append (by simp) (h.trans hn.symm) _

/-- The spare octet of the block is its last one. -/
theorem V1Header.overwrite_front {header : V1Header} (ho : header.hasOptional = true)
    (he : header.extended = false) (h : spare.length = header.spares)
    (hn : new.length = header.spares) (rest : Octets) :
    (header.front length spare ++ rest).overwrite 11 new = header.front length new ++ rest := by
  have hfront : ∀ spare, header.front length spare ++ rest =
      (header.flags :: header.type :: Octets.ofNat 2 length ++ Octets.ofUInt32 header.teid
        ++ Octets.ofUInt16 header.sequence ++ [header.packetNumber]) ++ spare ++ rest := fun spare => by
    simp only [front, block_of_optional ho he, List.append_assoc, List.cons_append, List.nil_append]
  rw [hfront, hfront]
  exact Octets.overwrite_append (by simp) (h.trans hn.symm) _

theorem PrimeHeader.overwrite_front {header : PrimeHeader} (h : spare.length = header.spares)
    (hn : new.length = header.spares) (rest : Octets) :
    (header.front length spare ++ rest).overwrite 6 new = header.front length new ++ rest :=
  Octets.overwrite_append (by simp) (h.trans hn.symm) _

end

namespace Header
variable {header : Header} {spare : Octets}

/-- What is done to a datagram leaves the header that is written, and the elements as they are
written. -/
theorem respared_front (hs : spare.length = header.spares) (length : Nat) (payload : Octets) :
    header.version.respared header.flags (header.front length spare ++ payload) =
      header.front length header.filler ++ header.version.cleared payload := by
  cases header with
  | v0 header => exact V0Header.overwrite_front hs rfl payload
  | v1 header =>
    have he : (header.flags &&& 4 == 0) = !header.extended := by
      rw [← header.extended_flags, bne, Bool.not_not]
    simp only [version, Version.respared, front, filler, flags, header.optional_flags, he]
    split
    · next h =>
      obtain ⟨ho, he⟩ := Bool.and_eq_true_iff.1 h
      have he : header.extended = false := (Bool.not_eq_true' _).mp he
      have hspares := V1Header.spares_of_optional ho he
      rw [V1Header.overwrite_front ho he hs (by rw [hspares]; rfl), hspares]
      rfl
    · next h =>
      have hspares : header.spares = 0 := by rw [V1Header.spares, if_neg h]
      have hs : spare.length = header.spares := hs
      rw [List.length_eq_zero_iff.1 (hs.trans hspares), hspares]
      rfl
  | v2 header =>
    have hl : (header.front length).length = announced header.flags .v2 := by
      rw [V2Header.length_front, announced, V2Header.teid_flags, V2Header.size]
      cases header.teid <;> rfl
    simp only [version, Version.respared, front, flags]
    rw [List.take_left' hl, List.drop_left' hl]
    rfl
  | prime header =>
    simp only [version, Version.respared, front, filler, flags, header.long_flags]
    split
    · next hl =>
      have hspares : header.spares = 14 := by rw [PrimeHeader.spares, if_pos hl]; rfl
      rw [PrimeHeader.overwrite_front hs (by rw [hspares, List.length_replicate]), hspares]
      rfl
    · next hl =>
      have hspares : header.spares = 0 := by rw [PrimeHeader.spares, if_neg hl]
      have hs : spare.length = header.spares := hs
      rw [List.length_eq_zero_iff.1 (hs.trans hspares), hspares]
      rfl

end Header

/-! ## Messages -/

namespace Message
variable {message : Message} {version : Version} {octets : Octets}

private theorem elements_ofElements_generic (header : Header) (elements : List Element) :
    (ofElements header .generic elements).elements = elements := by
  have hlayout : header.version.layout .generic = [] := by cases header.version <;> rfl
  rw [ofElements, hlayout]
  rfl

/-- A message without slots is its header and the elements as they are written. -/
private theorem encode_ofElements_generic {header : Header} {payload : Octets}
    {elements : List Element} (values : ∀ h, header = .v1 h → h.Sound)
    (hd : Element.decodeAll header.version payload = .ok elements)
    (hn : header.counted + payload.length ≤ maxLength) :
    (ofElements header .generic elements).encode =
      .ok (header.front (header.counted + payload.length) header.filler
        ++ header.version.cleared payload) := by
  have helements := elements_ofElements_generic header elements
  have hsize : (ofElements header .generic elements).payloadSize = payload.length := by
    rw [payloadSize, helements]
    exact Element.size_of_decodeAll hd
  have fits := fun x hx => (Element.sound_of_decodeAll hd x hx).2
  obtain ⟨parts, splits, hparts⟩ := Element.splits_of_decodeAll hd
  have hflat := splits.flatMap_octets
  rw [hparts] at hflat
  have hf : (ofElements header .generic elements).header.encode payload.length = _ :=
    (Header.encode_eq_ok values).2 ⟨hn, rfl⟩
  rw [← hsize] at hf
  have he := encode_eq_ok.2 ⟨helements.symm ▸ fits, _, hf, rfl⟩
  rw [he, helements, ← hflat, hsize]
  rfl

/-- A message without slots that was read strictly is written as the octets that it was read from, up to
the end that they declare, but for their spare bits. -/
theorem encode_of_parse_generic (h : parse version .strict octets = .ok message)
    (hg : message.kind = .generic) :
    ∃ flags type l₁ l₂ rest, octets = flags :: type :: l₁ :: l₂ :: rest ∧
      let size := version.uncounted flags + Octets.toNat [l₁, l₂]
      size ≤ octets.length ∧
        message.encode = .ok (version.respared flags (octets.take size)) := by
  obtain ⟨header, payload, elements, hp, hd, rfl⟩ := parse_eq_ok.1 h
  obtain ⟨rfl, values, length, spare, rest, hn, hs, rfl, hc, hp⟩ := Header.parse_eq_ok.1 hp
  obtain ⟨hdeclared, rfl⟩ := LengthPolicy.payload_strict_eq_ok.1 hp
  have hkind : header.version.kindOf header.type = .generic := hg
  have hpayload : (rest.take (length - header.counted)).length = length - header.counted :=
    List.length_take_of_le hdeclared
  have hlength : header.counted + (length - header.counted) = length := by omega
  have hwritten := encode_ofElements_generic values hd (by rw [hpayload, hlength]; exact hn)
  rw [hpayload, hlength, ← Header.respared_front hs] at hwritten
  -- The header ends where the counted octets of the payload begin.
  have hsize := Header.length_front values hs length
  have htake : (header.front length spare ++ rest).take
      ((header.front length spare).length + (length - header.counted)) = _ :=
    List.take_length_add_append _
  obtain ⟨tail, htail⟩ := header.exists_front spare
  obtain ⟨l₁, l₂, hl, hdenoted⟩ := exists_lengthField hn
  have hend : (header.front length spare).length + (length - header.counted) =
      header.version.uncounted header.flags + length := by
    rw [hsize, header.size_eq_uncounted]
    omega
  rw [hend] at htake
  refine ⟨header.flags, header.type, l₁, l₂, tail ++ rest, by rw [htail, hl]; rfl, ?_⟩
  intro size
  have hs : size = header.version.uncounted header.flags + length := by rw [← hdenoted]
  rw [hs, htake, hkind]
  refine ⟨?_, hwritten⟩
  rw [List.length_append]
  omega

/-- A message of a type without slots. Its elements and the one inside the first have spare bits set, and
three octets come after its end. -/
private def markedOctets : Octets := [
  0x4b, 240, 0, 22, 0, 0, 0, 9, 0, 0, 7, 0x5a,
  93, 0, 5, 0x31, 73, 0, 1, 0xf0, 5, 3, 0, 1, 0x80, 7, 3, 0, 1]

private def markedMessage : Message where
  header := .v2 {
    spareMarks := .last 3, type := 240, teid := some 9, sequence := .ofUInt32 7, spare := 0x5a }
  kind := .generic
  fields := []
  additional := [⟨93, 1, [73, 0, 1, 0xf0, 5], [⟨73, 0, [5], []⟩]⟩, ⟨3, 0, [7], []⟩]

/-- The bits are cleared beside the instances of the outer elements and nowhere else. -/
theorem encode_of_parse_generic_marked :
    parse .v2 .strict markedOctets = .ok markedMessage ∧ markedMessage.kind = .generic ∧
      markedMessage.encode = .ok [
        0x4b, 240, 0, 22, 0, 0, 0, 9, 0, 0, 7, 0x5a,
        93, 0, 5, 0x01, 73, 0, 1, 0xf0, 5, 3, 0, 1, 0x00, 7] := by
  have h : parse .v2 .strict markedOctets = .ok markedMessage := by decide +kernel
  obtain ⟨flags, type, l₁, l₂, rest, ho, -, he⟩ := encode_of_parse_generic h rfl
  cases ho
  refine ⟨h, rfl, he.trans ?_⟩
  decide +kernel

end Message
end GtpControl
