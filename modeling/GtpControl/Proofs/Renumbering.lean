import GtpControl.Proofs.HeaderEdits
import GtpControl.Proofs.MessageFraming

/-! # Messages that were read and get another sequence number

Nothing else of a message changes, except that a header of GTPv1-C marks the number as sent. The mark
can bring the optional block into the header, which makes the message longer, and it can be the last
that the first octet lacks to be that of a header of GTP'. -/
namespace GtpControl

/-- Bits of a sequence number. -/
def Version.sequenceWidth : Version → Nat
  | .v2 => 24
  | .v0 | .v1 | .prime => 16

namespace V1Header
variable {header : V1Header}

/-- A number that is sent hides no value. -/
theorem Sound.setSequence (sound : Sound header) (sequence : UInt32) :
    Sound (header.setSequence sequence) := by
  refine ⟨sound.extensions, sound.extended, fun ho => ?_⟩
  simp [hasOptional, V1Header.setSequence] at ho

/-- How much longer the mark of the sequence number makes a header. -/
theorem Sound.counted_setSequence (sound : Sound header) (sequence : UInt32) :
    (header.setSequence sequence).counted =
      header.counted + if header.hasOptional then 0 else optionalSize := by
  have hset : (header.setSequence sequence).hasOptional = true := by
    simp [hasOptional, V1Header.setSequence]
  rw [counted_of_hasOptional hset]
  cases ho : header.hasOptional with
  | true =>
    rw [counted_of_hasOptional ho]
    rfl
  | false =>
    have hx : header.extensions = [] := sound.chained.of_not_optional ho
    rw [counted_of_not_optional ho, V1Header.setSequence, hx]
    rfl

end V1Header

namespace Header
variable {header : Header}

/-- A header of GTPv1-C whose flags are those of GTP' but for the mark of the sequence number: the
protocol type is clear, the spare mark and the mark of extension headers are set. -/
def bordersPrime (header : Header) : Bool := header.version == .v1 && header.flags &&& 0x1e == 0x0c

/-- How much longer a sequence number makes a header: one of GTPv1-C gets its optional block if it has
none. -/
def growth : Header → Nat
  | .v1 h => if h.flags &&& 7 != 0 then 0 else V1Header.optionalSize
  | .v0 _ | .v2 _ | .prime _ => 0

@[simp] theorem version_setSequence (sequence : UInt32) (header : Header) :
    (header.setSequence sequence).version = header.version := by
  cases header <;> rfl

theorem toNat_sequence_setSequence (sequence : UInt32) (header : Header) :
    (header.setSequence sequence).sequence.toNat =
      sequence.toNat % 2 ^ header.version.sequenceWidth := by
  cases header with
  | v2 header =>
    refine UInt32.toNat_ofNat_of_lt' ?_
    exact (Sequence.ofUInt32 sequence).isLt.trans (by decide)
  | _ =>
    rw [setSequence, Header.sequence]
    exact UInt32.toNat_toUInt16 sequence

/-- A header without its sequence number and the mark that this is sent. -/
def unnumbered : Header → Header
  | .v0 h => .v0 { h with sequence := 0 }
  | .v1 h => .v1 { h with sequenced := false, sequence := 0 }
  | .v2 h => .v2 { h with sequence := .ofUInt32 0 }
  | .prime h => .prime { h with sequence := 0 }

theorem unnumbered_setSequence (sequence : UInt32) (header : Header) :
    (header.setSequence sequence).unnumbered = header.unnumbered := by
  cases header <;> rfl

theorem sequenced_setSequence {sequence : UInt32} {h : V1Header}
    (he : header.setSequence sequence = .v1 h) : h.sequenced = true := by
  cases header <;> cases he
  rfl

theorem counted_setSequence (values : ∀ h, header = .v1 h → h.Sound) (sequence : UInt32) :
    (header.setSequence sequence).counted = header.counted + header.growth := by
  cases header with
  | v1 header =>
    rw [growth, header.optional_flags]
    exact (values header rfl).counted_setSequence sequence
  | _ => rfl

private theorem ofFlags_mark : ∀ flags : UInt8, Version.ofFlags flags = .ok .v1 →
    (Version.ofFlags (mark 2 true flags) = .ok .v1 ↔ (flags &&& 0x1e == 0x0c) = false) :=
  forall_octet (by decide +kernel)

/-- With a sequence number, the flags of a header still name its version unless the header borders on
one of GTP'. -/
theorem ofFlags_setSequence (hv : Version.ofFlags header.flags = .ok header.version)
    (sequence : UInt32) :
    Version.ofFlags (header.setSequence sequence).flags = .ok header.version ↔
      header.bordersPrime = false := by
  rw [flags_setSequence]
  cases header with
  | v1 header => exact ofFlags_mark _ hv
  | _ => exact iff_of_true hv rfl

theorem Sound.setSequence (sound : Sound header) (hb : header.bordersPrime = false)
    (sequence : UInt32) : Sound (header.setSequence sequence) where
  version := by
    rw [version_setSequence]
    exact (ofFlags_setSequence sound.version sequence).2 hb
  values := by
    rintro h he
    cases header with
    | v1 header =>
      cases he
      exact (sound.values header rfl).setSequence sequence
    | _ => cases he

end Header

namespace Message
variable {message : Message} {octets : Octets}

/-- What is read of a datagram has the version that its first octet names. -/
theorem detect_of_parseAny {policy : LengthPolicy} (h : parseAny policy octets = .ok message) :
    Version.detect octets = .ok message.version := by
  simp only [parseAny, bind_eq_ok] at h
  obtain ⟨version, hd, hp⟩ := h
  rw [(kind_of_parse hp).1]
  exact hd

/-- A message that was read gets a sequence number of its header's width and keeps everything else, but
that a header of GTPv1-C has the mark of the number from then on. It can be written unless the optional
block that its header gets makes it too long, and is then read as itself just if its header does not
border on one of GTP'. -/
theorem parseAny_encode_setSequence (h : parseAny .strict octets = .ok message) (n : UInt32) :
    let renumbered := message.setSequence n
    (renumbered.version = message.version ∧ renumbered.type = message.type ∧
      renumbered.teid? = message.teid? ∧ renumbered.kind = message.kind ∧
      renumbered.fields = message.fields ∧ renumbered.additional = message.additional ∧
      renumbered.sequence.toNat = n.toNat % 2 ^ message.version.sequenceWidth ∧
      renumbered.header.unnumbered = message.header.unnumbered ∧
      ∀ h, renumbered.header = .v1 h → h.sequenced = true) ∧
    if maxLength < message.header.counted + message.header.growth + message.payloadSize then
      renumbered.encode = .error
        (.tooLarge (message.header.counted + message.header.growth + message.payloadSize))
    else
      ∃ written, renumbered.encode = .ok written ∧
        (parseAny .strict written = .ok renumbered ↔ message.header.bordersPrime = false) := by
  intro renumbered
  obtain ⟨sound, fits, -, -⟩ := sound_of_parseAny h
  have hversion : renumbered.version = message.version := Header.version_setSequence n _
  refine ⟨⟨hversion, type_setSequence n message, teid?_setSequence n message, rfl, rfl, rfl,
    Header.toNat_sequence_setSequence n _, Header.unnumbered_setSequence n _,
    fun _ => Header.sequenced_setSequence⟩, ?_⟩
  have hcounted : renumbered.header.counted = message.header.counted + message.header.growth :=
    Header.counted_setSequence sound.header.values n
  have hpayload : renumbered.payloadSize = message.payloadSize := payloadSize_setSequence n message
  rw [← hcounted, ← hpayload]
  split
  · next hlong =>
    have he := Header.encode_eq_error.2 ⟨hlong, rfl⟩
    rw [Message.encode, he, error_bind]
  · next hshort =>
    obtain ⟨front, hf⟩ := Header.exists_encode.2 (Nat.le_of_not_lt hshort)
    have fits' : ∀ x ∈ renumbered.elements, Element.Fits renumbered.version x := by
      rw [hversion]
      exact fits
    have he : renumbered.encode = .ok _ := encode_eq_ok.2 ⟨fits', front, hf, rfl⟩
    refine ⟨_, he, fun hp => ?_, fun hb => ?_⟩
    · -- The first octet names the version that is read.
      obtain ⟨more, rfl⟩ := Header.head_encode hf
      have hd : Version.ofFlags renumbered.header.flags = .ok renumbered.version :=
        detect_of_parseAny hp
      rw [hversion] at hd
      exact (Header.ofFlags_setSequence sound.header.version n).1 hd
    · have hp := (sound.setSequence_of_header n (sound.header.setSequence hb n)).parseAny_encode he
        .strict []
      rwa [List.append_nil] at hp

/-- An echo of GTPv1-C without an optional block. -/
private def plainEcho : Message where
  header := .v1 { sequenced := false, type := 1, teid := 1, sequence := 0 }
  kind := .echoRequest
  fields := [(.one .privateExtension 255, [])]
  additional := [⟨14, 0, [0], []⟩]

/-- An echo gets its optional block with the lower sixteen bits of a number. -/
theorem parseAny_encode_setSequence_plainEcho :
    parseAny .strict [0x30, 1, 0, 2, 0, 0, 0, 1, 14, 0] = .ok plainEcho ∧
      (plainEcho.setSequence 0x12345).sequence.toNat = 0x2345 ∧
      (plainEcho.setSequence 0x12345).header.unnumbered = plainEcho.header ∧
      ∃ written, (plainEcho.setSequence 0x12345).encode = .ok written ∧
        parseAny .strict written = .ok (plainEcho.setSequence 0x12345) := by
  have h : parseAny .strict [0x30, 1, 0, 2, 0, 0, 0, 1, 14, 0] = .ok plainEcho := by decide +kernel
  obtain ⟨⟨-, -, -, -, -, -, hn, hrest, -⟩, hw⟩ := parseAny_encode_setSequence h 0x12345
  rw [if_neg (by decide)] at hw
  obtain ⟨written, he, hp⟩ := hw
  exact ⟨h, hn, hrest, written, he, hp.2 (by decide)⟩

/-- An echo of GTPv1-C that borders on GTP'. -/
private def borderEcho : Message where
  header := .v1 {
    protocolType := false, spareMark := true, extended := true, sequenced := false, type := 1
    teid := 9, sequence := 0 }
  kind := .echoRequest
  fields := [(.one .privateExtension 255, [])]
  additional := []

private def longHeader : Header := .v1 { sequenced := false, type := 1, teid := 9, sequence := 0 }

/-- An echo of GTPv1-C with a private extension and without an optional block. -/
private def longEcho (content : Octets) : Message :=
  ofElements longHeader .echoRequest [⟨255, 0, content, []⟩]

private theorem disturbed_longEcho {content : Octets} (h : content.length = 65529) :
    parseAny .strict ([0x30, 1, 0xff, 0xfc, 0, 0, 0, 9] ++ ([255, 0xff, 0xf9] ++ content)) =
        .ok (longEcho content) ∧
      ((longEcho content).setSequence 7).encode = .error (.tooLarge 65536) := by
  have hmake : Element.make .v1 255 0 content = .ok ⟨255, 0, content, []⟩ := by
    rw [Element.make, if_neg (by rw [h]; decide)]
    rfl
  have helements : (longEcho content).elements = [⟨255, 0, content, []⟩] := rfl
  have sound : Sound (longEcho content) := by
    refine sound_ofElements ⟨rfl, ?_⟩ ?_ rfl
    · rintro _ he
      cases he
      exact ⟨by simp, fun _ => rfl, fun _ => ⟨rfl, rfl⟩⟩
    · rw [List.forall_mem_singleton]
      exact Element.sound_of_make hmake
  have hsize : (longEcho content).payloadSize = 65532 := by
    have hl : (longEcho content).payloadSize = 3 + content.length := rfl
    rw [hl, h]
  have hf : longHeader.encode 65532 = .ok [0x30, 1, 0xff, 0xfc, 0, 0, 0, 9] := by decide +kernel
  have hl : (longHeader.setSequence 7).encode 65532 = .error (.tooLarge 65536) := by decide +kernel
  constructor
  · have ho : Element.octets .v1 ⟨255, 0, content, []⟩ =
        255 :: Octets.ofNat 2 (min content.length maxLength) ++ [] ++ content := rfl
    have he : (longEcho content).encode =
        .ok ([0x30, 1, 0xff, 0xfc, 0, 0, 0, 9] ++ ([255, 0xff, 0xf9] ++ content)) := by
      refine encode_eq_ok.2 ⟨?_, _, hsize ▸ hf, ?_⟩
      · rw [helements, List.forall_mem_singleton]
        exact Element.fits_of_make hmake
      · rw [helements, List.flatMap_singleton]
        refine congrArg _ (.trans ?_ ho.symm)
        rw [h]
        rfl
    have hp := sound.parseAny_encode he .strict []
    rwa [List.append_nil] at hp
  · have hheader : ((longEcho content).setSequence 7).header = longHeader.setSequence 7 := rfl
    rw [Message.encode, payloadSize_setSequence, hsize, hheader, hl, error_bind]

/-- An echo that borders on GTP' is taken for one once it has a sequence number, and one that is nearly
as long as can be has no room for its optional block. -/
theorem parseAny_encode_setSequence_disturbed :
    (parseAny .strict [0x2c, 1, 0, 4, 0, 0, 0, 9, 0, 0, 0, 0] = .ok borderEcho ∧
      (borderEcho.setSequence 7).encode = .ok [0x2e, 1, 0, 4, 0, 0, 0, 9, 0, 7, 0, 0] ∧
      parseAny .strict [0x2e, 1, 0, 4, 0, 0, 0, 9, 0, 7, 0, 0] = .error (.invalidType 0)) ∧
    let content := List.replicate 65529 0
    parseAny .strict ([0x30, 1, 0xff, 0xfc, 0, 0, 0, 9] ++ ([255, 0xff, 0xf9] ++ content)) =
        .ok (longEcho content) ∧
      ((longEcho content).setSequence 7).encode = .error (.tooLarge 65536) :=
  ⟨⟨by decide +kernel, by decide +kernel, by decide +kernel⟩,
    disturbed_longEcho List.length_replicate⟩

end Message
end GtpControl
