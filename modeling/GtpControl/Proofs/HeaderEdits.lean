import GtpControl.Proofs.HeaderFraming
import Mathlib.Data.List.TakeWhile

/-! # Headers that are made or read and then changed

A change sets or clears its own bit of the flags and leaves the other bits as they came. What was
changed is read back from its encoding, but for two faults of GTPv1-C: an extension header whose type
marks the end of the chain, and values of the optional block that stay when the block goes. -/
namespace GtpControl

/-- Sets or clears a bit of an octet. -/
def mark (bit : UInt8) (on : Bool) (octet : UInt8) : UInt8 :=
  if on then octet ||| bit else octet &&& ~~~bit

namespace Header

/-- A header with the octet that the operations on it leave of the flags: one that is new or was
read has its first octet, and each change sets or clears a bit of that octet or none. -/
inductive Edited : Header → UInt8 → Prop where
  | made (version : Version) (type : UInt8) (values : Values) :
    Edited (make version type values) (newFlags version values.teid.isSome)
  | read {version : Version} {policy : LengthPolicy} {flags : UInt8} {rest payload : Octets}
    {header : Header} (h : parse version policy (flags :: rest) = .ok (header, payload)) :
    Edited header flags
  /-- only a header of GTPv1-C has a mark for its sequence number -/
  | setSequence {header : Header} {flags : UInt8} (sequence : UInt32) (h : Edited header flags) :
    Edited (header.setSequence sequence)
      (if header.version = .v1 then mark 2 true flags else flags)
  | setFlowLabel {header : V0Header} {flags : UInt8} (label : UInt16)
    (h : Edited (.v0 header) flags) : Edited (.v0 { header with flowLabel := label }) flags
  | setTid {header : V0Header} {flags : UInt8} (tid : UInt64) (h : Edited (.v0 header) flags) :
    Edited (.v0 { header with tid }) flags
  | setTeid {header : V1Header} {flags : UInt8} (teid : UInt32) (h : Edited (.v1 header) flags) :
    Edited (.v1 { header with teid }) flags
  | setPacketNumber {header : V1Header} {flags : UInt8} (number : Option UInt8)
    (h : Edited (.v1 header) flags) :
    Edited (.v1 (header.setPacketNumber number)) (mark 1 number.isSome flags)
  | setExtensions {header : V1Header} {flags : UInt8} {extensions : List ExtensionHeader}
    (hx : ∀ x ∈ extensions, ExtensionHeader.make x.type x.content = .ok x)
    (h : Edited (.v1 header) flags) :
    Edited (.v1 (header.setExtensions extensions)) (mark 4 (!extensions.isEmpty) flags)
  | setTeid? {header : V2Header} {flags : UInt8} (teid : Option UInt32)
    (h : Edited (.v2 header) flags) : Edited (.v2 { header with teid }) (mark 8 teid.isSome flags)
  | setPiggybacking {header : V2Header} {flags : UInt8} (on : Bool)
    (h : Edited (.v2 header) flags) :
    Edited (.v2 { header with piggybacking := on }) (mark 0x10 on flags)
  | setPriority {header : V2Header} {flags : UInt8} (priority : Option UInt8)
    (h : Edited (.v2 header) flags) :
    Edited (.v2 (header.setPriority priority)) (mark 4 priority.isSome flags)
  | setLong {header : PrimeHeader} {flags : UInt8} (on : Bool) (h : Edited (.prime header) flags) :
    Edited (.prime { header with long := on }) (mark 1 on flags)

end Header

/-! ## Flags -/

namespace V1Header
variable (header : V1Header)

private theorem mark_flags : ∀ protocolType spareMark extended sequenced numbered on : Bool,
    let octet (extended sequenced numbered : Bool) : UInt8 :=
      0x20 ||| (if protocolType then 0x10 else 0) ||| (if spareMark then 8 else 0)
        ||| (if extended then 4 else 0) ||| (if sequenced then 2 else 0)
        ||| (if numbered then 1 else 0)
    octet on sequenced numbered = mark 4 on (octet extended sequenced numbered) ∧
      octet extended on numbered = mark 2 on (octet extended sequenced numbered) ∧
      octet extended sequenced on = mark 1 on (octet extended sequenced numbered) ∧
      (octet extended sequenced numbered &&& 7 != 0) = (extended || sequenced || numbered) := by
  decide

theorem flags_setExtensions (extensions : List ExtensionHeader) :
    (header.setExtensions extensions).flags = mark 4 (!extensions.isEmpty) header.flags :=
  (mark_flags header.protocolType header.spareMark header.extended header.sequenced header.numbered
    (!extensions.isEmpty)).1

theorem flags_setSequence (sequence : UInt32) :
    (header.setSequence sequence).flags = mark 2 true header.flags :=
  (mark_flags header.protocolType header.spareMark header.extended header.sequenced header.numbered
    true).2.1

theorem flags_setPacketNumber (number : Option UInt8) :
    (header.setPacketNumber number).flags = mark 1 number.isSome header.flags :=
  (mark_flags header.protocolType header.spareMark header.extended header.sequenced header.numbered
    number.isSome).2.2.1

theorem optional_flags : (header.flags &&& 7 != 0) = header.hasOptional :=
  (mark_flags header.protocolType header.spareMark header.extended header.sequenced header.numbered
    true).2.2.2

end V1Header

namespace V2Header
variable (header : V2Header)

private theorem mark_flags : ∀ (piggybacking withTeid prioritised on : Bool) (spare : Fin 4),
    let octet (piggybacking withTeid prioritised : Bool) : UInt8 :=
      0x40 ||| (if piggybacking then 0x10 else 0) ||| (if withTeid then 8 else 0)
        ||| (if prioritised then 4 else 0) ||| UInt8.ofNat spare
    octet on withTeid prioritised = mark 0x10 on (octet piggybacking withTeid prioritised) ∧
      octet piggybacking on prioritised = mark 8 on (octet piggybacking withTeid prioritised) ∧
      octet piggybacking withTeid on = mark 4 on (octet piggybacking withTeid prioritised) := by
  decide

theorem flags_setPiggybacking (on : Bool) :
    { header with piggybacking := on }.flags = mark 0x10 on header.flags :=
  (mark_flags header.piggybacking header.teid.isSome header.prioritised on header.spareMarks).1

theorem flags_setTeid (teid : Option UInt32) :
    { header with teid }.flags = mark 8 teid.isSome header.flags :=
  (mark_flags header.piggybacking header.teid.isSome header.prioritised teid.isSome
    header.spareMarks).2.1

theorem flags_setPriority (priority : Option UInt8) :
    (header.setPriority priority).flags = mark 4 priority.isSome header.flags :=
  (mark_flags header.piggybacking header.teid.isSome header.prioritised priority.isSome
    header.spareMarks).2.2

end V2Header

namespace PrimeHeader

private theorem mark_flags : ∀ (version : Fin 8) (long on : Bool),
    let octet (long : Bool) : UInt8 :=
      (UInt8.ofNat version <<< 5) ||| 0x0e ||| (if long then 1 else 0)
    octet on = mark 1 on (octet long) := by
  decide

theorem flags_setLong (header : PrimeHeader) (on : Bool) :
    { header with long := on }.flags = mark 1 on header.flags :=
  mark_flags header.version header.long on

end PrimeHeader

namespace Header
variable {header : Header} {flags : UInt8}

theorem flags_setSequence (sequence : UInt32) (header : Header) :
    (header.setSequence sequence).flags =
      if header.version = .v1 then mark 2 true header.flags else header.flags := by
  cases header with
  | v1 h₁ => exact h₁.flags_setSequence sequence
  | _ => rfl

/-- The flags of a header are the octet that is kept bit by bit. -/
theorem flags_of_edited (h : Edited header flags) : header.flags = flags := by
  induction h with
  | made version type values => exact flags_make version type values
  | read h => exact (Option.some.inj (unpacked_of_parse h).flags).symm
  | setSequence sequence h ih => rw [flags_setSequence, ih]
  | setFlowLabel label h ih => exact ih
  | setTid tid h ih => exact ih
  | setTeid teid h ih => exact ih
  | @setPacketNumber header flags number h ih =>
    rw [← ih]
    exact header.flags_setPacketNumber number
  | @setExtensions header flags extensions hx h ih =>
    rw [← ih]
    exact header.flags_setExtensions extensions
  | @setTeid? header flags teid h ih =>
    rw [← ih]
    exact header.flags_setTeid teid
  | @setPiggybacking header flags on h ih =>
    rw [← ih]
    exact header.flags_setPiggybacking on
  | @setPriority header flags priority h ih =>
    rw [← ih]
    exact header.flags_setPriority priority
  | @setLong header flags on h ih =>
    rw [← ih]
    exact header.flags_setLong on

/-- How many octets the flags of a header announce, apart from its extension headers. -/
def announced (flags : UInt8) : Version → Nat
  | .v0 => 20
  | .v1 => if flags &&& 7 != 0 then 12 else 8
  | .v2 => if flags &&& 8 != 0 then 12 else 8
  | .prime => if flags &&& 1 != 0 then 20 else 6

/-! ## Versions other than GTPv1-C -/

/-- However a header was changed, its flags say what it holds and how long it is, and it is read back
from its encoding. -/
theorem framing_of_edited (h : Edited header flags) (hv : header.version ≠ .v1) :
    header.flags = flags ∧
    (header.version = .v2 → (flags &&& 8 != 0) = header.teid?.isSome) ∧
    header.size = announced flags header.version ∧
    (∀ n octets, header.encode n = .ok octets → octets.length = header.size) ∧
    ∀ payload octets, header.encode payload.length = .ok octets →
      parse header.version .strict (octets ++ payload) = .ok (header, payload) := by
  have hflags := flags_of_edited h
  have values : ∀ h, header = .v1 h → h.Sound := by
    rintro h₁ rfl
    exact absurd rfl hv
  subst hflags
  refine ⟨rfl, fun h₂ => ?_, ?_, fun n octets he => length_encode he, fun payload octets he => ?_⟩
  · cases header with
    | v2 header => exact header.teid_flags
    | _ => cases h₂
  · cases header with
    | v0 header => rfl
    | v1 header => exact absurd rfl hv
    | v2 header =>
      simp only [size, V2Header.size, announced, version, Header.flags, V2Header.teid_flags]
      cases header.teid <;> rfl
    | prime header =>
      simp only [size, PrimeHeader.size, announced, version, Header.flags, PrimeHeader.long_flags]
      rfl
  · have hp := parse_encode values he .strict []
    rwa [List.append_nil] at hp

/-- A header that was read with a spare mark set gets an end point number and a priority, of which the
higher bits are lost. -/
theorem framing_of_edited_prioritised :
    let header : V2Header := {
      prioritised := true, spareMarks := 2, type := 1, teid := some 5, sequence := 7, spare := 0x30 }
    Edited (.v2 header) 0x4e ∧ (Header.v2 header).version ≠ .v1 ∧
    (Header.v2 header).flags = 0x4e ∧
    ((Header.v2 header).version = .v2 → ((0x4e : UInt8) &&& 8 != 0) = header.teid.isSome) ∧
    (Header.v2 header).size = announced 0x4e .v2 ∧
    (∀ n octets, (Header.v2 header).encode n = .ok octets → octets.length = header.size) ∧
    ∀ payload octets, (Header.v2 header).encode payload.length = .ok octets →
      parse .v2 .strict (octets ++ payload) = .ok (.v2 header, payload) := by
  intro header
  have hread : parse .v2 .strict [0x42, 1, 0, 4, 0, 0, 7, 9] =
      .ok (.v2 { spareMarks := 2, type := 1, teid := none, sequence := 7, spare := 9 }, []) := by
    decide +kernel
  have h : Edited (.v2 header) 0x4e :=
    .setPriority (some 0x13) (.setTeid? (some 5) (.read hread))
  have hv : (Header.v2 header).version ≠ .v1 := by decide
  exact ⟨h, hv, framing_of_edited h hv⟩

end Header

/-! ## GTPv1-C

An extension header of type zero can be made and put into a chain, where its type ends the chain for a
reader: what comes after is taken for the payload. And when the last mark of the optional block goes,
the sequence number and the packet number stay in the header though they are no longer sent. -/

namespace ExtensionHeader

/-- Whether a reader goes on from the type of an entry to the entry. -/
def links (extension : ExtensionHeader) : Bool := extension.type != 0

theorem make_eq_ok {type : UInt8} {content : Octets} {extension : ExtensionHeader} :
    make type content = .ok extension ↔
      extension = ⟨type, content⟩ ∧ extension.size % 4 = 0 ∧ extension.size ≤ 4 * 255 := by
  rw [make]
  split
  · next h =>
    simp only [throw_eq, reduceCtorEq, false_iff]
    rintro ⟨rfl, hf, hs⟩
    simp only [size] at hf hs
    omega
  · next h =>
    simp only [pure_eq, Except.ok.injEq]
    refine ⟨?_, fun hx => hx.1.symm⟩
    rintro rfl
    refine ⟨rfl, ?_⟩
    simp only [size]
    omega

/-- The octets of a chain start with those of the entries before the first of type zero. -/
theorem encodeChain_split (extensions : List ExtensionHeader) :
    encodeChain extensions =
      encodeChain (extensions.takeWhile links) ++ (encodeChain (extensions.dropWhile links)).tail := by
  induction extensions with
  | nil => rfl
  | cons extension extensions ih =>
    by_cases hl : extension.links = true
    · rw [List.takeWhile_cons_of_pos hl, List.dropWhile_cons_of_pos hl]
      simp only [encodeChain, ih, List.cons_append, List.append_assoc]
    · rw [List.takeWhile_cons_of_neg hl, List.dropWhile_cons_of_neg hl]
      have ht : extension.type = 0 := by simpa [links] using hl
      simp only [encodeChain, ht, List.tail_cons, List.cons_append, List.nil_append]

end ExtensionHeader

namespace V1Header
variable {header : V1Header}

/-- The extension headers of a header have sizes that can be written, and the mark is set if there are
any. -/
structure Chained (header : V1Header) : Prop where
  sizes : ∀ extension ∈ header.extensions, extension.size % 4 = 0 ∧ extension.size ≤ 4 * 255
  extended : header.extended = false → header.extensions = []

theorem Sound.chained (sound : Sound header) : Chained header :=
  ⟨fun extension hx => ⟨(sound.extensions extension hx).fours, (sound.extensions extension hx).size_le⟩,
    sound.extended⟩

/-- What a reader sees of a header: the chain up to an entry of type zero if there is an optional block,
and no values of it if there is none. -/
def seen (header : V1Header) : V1Header :=
  if header.hasOptional then
    { header with extensions := header.extensions.takeWhile ExtensionHeader.links }
  else header.bare

/-- The octets of a header that a reader takes for the start of the payload. -/
def spilt (header : V1Header) : Octets :=
  (ExtensionHeader.encodeChain (header.extensions.dropWhile ExtensionHeader.links)).tail

private theorem seen_of_hasOptional (ho : header.hasOptional = true) :
    header.seen =
      { header with extensions := header.extensions.takeWhile ExtensionHeader.links } := if_pos ho

private theorem seen_of_not_optional (ho : header.hasOptional = false) :
    header.seen = header.bare := if_neg (by rw [ho]; decide)

theorem Chained.of_not_optional (chained : Chained header) (ho : header.hasOptional = false) :
    header.extensions = [] := by
  refine chained.extended ?_
  cases he : header.extended with
  | true => cases ho.symm.trans (hasOptional_of_extended he)
  | false => rfl

theorem Chained.sound_seen (chained : Chained header) : Sound header.seen := by
  cases ho : header.hasOptional with
  | true =>
    rw [seen_of_hasOptional ho]
    refine ⟨fun extension hx => ?_, fun he => ?_, fun hn => ?_⟩
    · obtain ⟨hf, hs⟩ := chained.sizes extension ((List.takeWhile_sublist _).subset hx)
      have hl : extension.links = true := List.mem_takeWhile_imp hx
      exact ⟨by simpa [ExtensionHeader.links] using hl, hf, hs⟩
    · simp only [chained.extended he, List.takeWhile_nil]
    · cases ho.symm.trans hn
  | false =>
    rw [seen_of_not_optional ho]
    exact ⟨by simp [bare], fun _ => rfl, fun _ => ⟨rfl, rfl⟩⟩

/-- The octets of a header are those of what is seen of it, and the octets that are taken for
payload. -/
theorem Chained.encode_seen (chained : Chained header) {n : Nat} {octets : Octets}
    (h : header.encode n = .ok octets) :
    ∃ front, header.seen.encode (header.spilt.length + n) = .ok front ∧
      octets = front ++ header.spilt := by
  obtain ⟨hn, rfl⟩ := V1Header.encode_eq_ok.1 h
  cases ho : header.hasOptional with
  | true =>
    have hsplit := ExtensionHeader.encodeChain_split header.extensions
    have hs : header.seen.hasOptional = true := by rw [seen_of_hasOptional ho]; exact ho
    have hc : header.counted = header.seen.counted + header.spilt.length := by
      have hl := congrArg List.length hsplit
      rw [List.length_append, ExtensionHeader.length_encodeChain,
        ExtensionHeader.length_encodeChain] at hl
      rw [counted_of_hasOptional ho, counted_of_hasOptional hs, seen_of_hasOptional ho, spilt]
      dsimp only
      omega
    refine ⟨_, V1Header.encode_eq_ok.2 ⟨by omega, rfl⟩, ?_⟩
    rw [hs, ← Nat.add_assoc, ← hc, seen_of_hasOptional ho]
    simp only [if_true, hsplit, spilt, List.cons_append, List.append_assoc]
    rfl
  | false =>
    have hx := chained.of_not_optional ho
    have hspilt : header.spilt = [] := by rw [spilt, hx]; rfl
    rw [hspilt, seen_of_not_optional ho, List.length_nil, Nat.zero_add]
    have hb : header.bare.hasOptional = false := ho
    have hc : header.bare.counted = header.counted := by
      rw [counted_of_not_optional hb, counted_of_not_optional ho]
    refine ⟨_, V1Header.encode_eq_ok.2 ⟨by omega, rfl⟩, ?_⟩
    rw [hc, List.append_nil, hb]
    rfl

/-- A header is seen as it is unless a type is zero or a value is hidden. -/
theorem Chained.seen_eq_self (chained : Chained header) :
    header.seen = header ↔ (∀ extension ∈ header.extensions, extension.type ≠ 0) ∧
      (header.hasOptional = false → header.sequence = 0 ∧ header.packetNumber = 0) := by
  cases ho : header.hasOptional with
  | true =>
    rw [seen_of_hasOptional ho]
    have hall : header.extensions.takeWhile ExtensionHeader.links = header.extensions ↔
        ∀ extension ∈ header.extensions, extension.type ≠ 0 := by
      simp [List.takeWhile_eq_self_iff, ExtensionHeader.links]
    refine ⟨fun h => ⟨hall.1 (congrArg V1Header.extensions h), nofun⟩, fun h => ?_⟩
    rw [hall.2 h.1]
  | false =>
    have hx := chained.of_not_optional ho
    rw [seen_of_not_optional ho]
    refine ⟨fun h => ⟨by simp [hx], fun _ => ?_⟩, fun h => ?_⟩
    · exact ⟨(congrArg V1Header.sequence h).symm, (congrArg V1Header.packetNumber h).symm⟩
    · obtain ⟨hs, hp⟩ := h.2 rfl
      rw [bare, ← hs, ← hp, ← hx]

theorem Chained.spilt_of_seen_eq (chained : Chained header) (h : header.seen = header) :
    header.spilt = [] := by
  have hd : header.extensions.dropWhile ExtensionHeader.links = [] := by
    simpa [List.dropWhile_eq_nil_iff, ExtensionHeader.links] using (chained.seen_eq_self.1 h).1
  rw [spilt, hd]
  rfl

end V1Header

namespace Header
variable {header : V1Header} {flags : UInt8}

/-- Every change keeps the extension headers writable. -/
theorem chained_of_edited (h : Edited (.v1 header) flags) : header.Chained := by
  generalize he : Header.v1 header = edited at h
  induction h generalizing header with
  | made version type values =>
    cases version with
    | v1 =>
      cases he
      exact ⟨by simp, fun _ => rfl⟩
    | _ => cases he
  | read h =>
    subst he
    exact ((parse_eq_ok.1 h).2.1 header rfl).chained
  | @setSequence before flags sequence h ih =>
    cases before with
    | v1 before =>
      cases he
      exact ⟨(ih rfl).sizes, (ih rfl).extended⟩
    | _ => cases he
  | setTeid teid h ih =>
    cases he
    exact ⟨(ih rfl).sizes, (ih rfl).extended⟩
  | setPacketNumber number h ih =>
    cases he
    exact ⟨(ih rfl).sizes, (ih rfl).extended⟩
  | @setExtensions before flags extensions hx h ih =>
    cases he
    refine ⟨fun extension hm => (ExtensionHeader.make_eq_ok.1 (hx extension hm)).2, fun hn => ?_⟩
    simpa [V1Header.setExtensions] using hn
  | _ => cases he

/-- However a header was changed, its flags are the octet that is kept bit by bit and its octets are
read as what is seen of it. This is the header itself just if no extension header has type zero, and
the sequence and packet numbers are zero if they are not sent. -/
theorem reading_of_edited (h : Edited (.v1 header) flags) {payload octets : Octets}
    (he : (Header.v1 header).encode payload.length = .ok octets) :
    header.flags = flags ∧ octets.length = header.size ∧
    parse .v1 .strict (octets ++ payload) = .ok (.v1 header.seen, header.spilt ++ payload) ∧
    (parse .v1 .strict (octets ++ payload) = .ok (.v1 header, payload) ↔
      (∀ extension ∈ header.extensions, extension.type ≠ 0) ∧
        (header.hasOptional = false → header.sequence = 0 ∧ header.packetNumber = 0)) := by
  have chained := chained_of_edited h
  obtain ⟨front, hf, hfront⟩ := chained.encode_seen he
  have hread : parse .v1 .strict (octets ++ payload) =
      .ok (.v1 header.seen, header.spilt ++ payload) := by
    have values : ∀ h, Header.v1 header.seen = .v1 h → h.Sound := by
      rintro h₁ hh
      cases hh
      exact chained.sound_seen
    rw [← List.length_append] at hf
    have hp := parse_encode values hf .strict []
    rwa [List.append_nil, ← List.append_assoc, ← hfront] at hp
  refine ⟨flags_of_edited h, length_encode he, hread, ?_⟩
  rw [hread, ← chained.seen_eq_self, Except.ok.injEq, Prod.mk.injEq, Header.v1.injEq]
  refine ⟨And.left, fun hs => ⟨hs, ?_⟩⟩
  rw [chained.spilt_of_seen_eq hs, List.nil_append]

/-- A header whose sequence number had no mark gets a chain of two, and its packet number goes. -/
theorem reading_of_edited_chained :
    let header : V1Header := {
      extended := true, sequenced := false, type := 1, teid := 9, sequence := 0x1234,
      extensions := [⟨0x85, [1, 2]⟩, ⟨0x40, [0, 0, 0, 0, 0, 1]⟩] }
    let octets : Octets := [
      0x34, 1, 0, 0x12, 0, 0, 0, 9, 0x12, 0x34, 0, 0x85, 1, 1, 2, 0x40, 2, 0, 0, 0, 0, 0, 1, 0]
    (Edited (.v1 header) 0x34 ∧ (Header.v1 header).encode [14, 0].length = .ok octets) ∧
    header.flags = 0x34 ∧ octets.length = header.size ∧
    parse .v1 .strict (octets ++ [14, 0]) = .ok (.v1 header.seen, header.spilt ++ [14, 0]) ∧
    (parse .v1 .strict (octets ++ [14, 0]) = .ok (.v1 header, [14, 0]) ↔
      (∀ extension ∈ header.extensions, extension.type ≠ 0) ∧
        (header.hasOptional = false → header.sequence = 0 ∧ header.packetNumber = 0)) := by
  intro header octets
  have hread : parse .v1 .strict [0x31, 1, 0, 4, 0, 0, 0, 9, 0x12, 0x34, 5, 0] =
      .ok (.v1 {
        sequenced := false, numbered := true, type := 1, teid := 9, sequence := 0x1234,
        packetNumber := 5 }, []) := by
    decide +kernel
  have hx : ∀ extension ∈ header.extensions,
      ExtensionHeader.make extension.type extension.content = .ok extension := by
    decide
  have h₁ : Edited (.v1 { header with numbered := true, packetNumber := 5 }) 0x35 :=
    .setExtensions hx (.read hread)
  have h : Edited (.v1 header) 0x34 := .setPacketNumber none h₁
  have he : (Header.v1 header).encode [14, 0].length = .ok octets := by decide +kernel
  exact ⟨⟨h, he⟩, reading_of_edited h he⟩

/-- An extension header of type zero is read as the end of the chain, with the rest of the chain as
payload; and a sequence number that was read without its mark is not sent once the packet number has
gone. -/
theorem misreading_of_edited :
    (let header : V1Header := {
        extended := true, type := 1, teid := 9, sequence := 7, extensions := [⟨0, [1, 2]⟩] }
      let octets : Octets := [0x36, 1, 0, 8, 0, 0, 0, 9, 0, 7, 0, 0, 1, 1, 2, 0]
      Edited (.v1 header) 0x36 ∧ (Header.v1 header).encode 0 = .ok octets ∧
      parse .v1 .strict octets = .ok (.v1 { header with extensions := [] }, [1, 1, 2, 0])) ∧
    let header : V1Header := { sequenced := false, type := 1, teid := 9, sequence := 0x1234 }
    let octets : Octets := [0x30, 1, 0, 0, 0, 0, 0, 9]
    Edited (.v1 header) 0x30 ∧ (Header.v1 header).encode 0 = .ok octets ∧
    parse .v1 .strict octets = .ok (.v1 { header with sequence := 0 }, []) := by
  constructor
  · intro header octets
    have hx : ∀ extension ∈ header.extensions,
        ExtensionHeader.make extension.type extension.content = .ok extension := by
      decide
    exact ⟨.setExtensions hx (.made .v1 1 { sequence := 7, teid := some 9 }), by decide +kernel,
      by decide +kernel⟩
  · intro header octets
    have hread : parse .v1 .strict [0x31, 1, 0, 4, 0, 0, 0, 9, 0x12, 0x34, 5, 0] =
        .ok (.v1 {
          sequenced := false, numbered := true, type := 1, teid := 9, sequence := 0x1234,
          packetNumber := 5 }, []) := by
      decide +kernel
    exact ⟨.setPacketNumber none (.read hread), by decide +kernel, by decide +kernel⟩

end Header
end GtpControl
