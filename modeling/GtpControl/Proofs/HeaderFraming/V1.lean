import GtpControl.Header.V1
import GtpControl.Proofs.HeaderFraming.Basic

/-! # Framing of headers of GTPv1-C, and of their chains of extension headers -/
namespace GtpControl

namespace ExtensionHeader

/-- An entry that can stand in a chain: its type does not end the chain, and its size is counted in
fours by one octet. -/
structure Sound (extension : ExtensionHeader) : Prop where
  type : extension.type ≠ 0
  fours : extension.size % 4 = 0
  size_le : extension.size ≤ 4 * 255

theorem length_encodeChain (extensions : List ExtensionHeader) :
    (encodeChain extensions).length = total (extensions.map size) + 1 := by
  induction extensions with
  | nil => rfl
  | cons extension extensions ih => simp [encodeChain, total, ih, size]; omega

private theorem exists_encodeChain (extensions : List ExtensionHeader) :
    ∃ next octets, encodeChain extensions = next :: octets := by
  cases extensions with
  | nil => exact ⟨0, [], rfl⟩
  | cons extension extensions => exact ⟨_, _, rfl⟩

private theorem Sound.units {extension : ExtensionHeader} (h : Sound extension) :
    UInt8.ofNat (extension.size / 4) ≠ 0 ∧
      4 * (UInt8.ofNat (extension.size / 4)).toNat = extension.content.length + 2 := by
  obtain ⟨_, hf, hs⟩ := h
  have hn : (UInt8.ofNat (extension.size / 4)).toNat = extension.size / 4 := by
    rw [UInt8.toNat_ofNat', Nat.mod_eq_of_lt (by omega)]
  have hsize : 4 * (extension.size / 4) = extension.content.length + 2 := by
    rw [Nat.mul_div_cancel' (Nat.dvd_of_mod_eq_zero hf)]
    rfl
  refine ⟨fun h => ?_, by rw [hn, hsize]⟩
  rw [h] at hn
  have hz : (0 : UInt8).toNat = 0 := rfl
  omega

theorem decodeChain_entry {next units following : UInt8} {content more : Octets}
    (hnext : next ≠ 0) (hunits : units ≠ 0) (hc : content.length = 4 * units.toNat - 2)
    (position : Nat) :
    decodeChain next position (units :: (content ++ following :: more)) = (do
      let (extensions, payload) ← decodeChain following (position + 4 * units.toNat) more
      return (⟨next, content⟩ :: extensions, payload)) := by
  have hs := Octets.split?_append hc (following :: more)
  conv => lhs; unfold decodeChain
  simp only [hnext, hunits, if_false]
  split
  · next hsplit =>
    cases hs.symm.trans hsplit
    rfl
  · next hne => exact (hne _ _ _ hs).elim

theorem decodeChain_short {next units : UInt8} {rest : Octets} (hnext : next ≠ 0)
    (hunits : units ≠ 0) (h : rest.length + 1 < 4 * units.toNat) (position : Nat) :
    decodeChain next position (units :: rest) =
      .error (.tooShort (position + 4 * units.toNat) (position + 1 + rest.length)) := by
  unfold decodeChain
  simp only [hnext, hunits, if_false]
  split
  · next hsplit =>
    obtain ⟨rfl, hc⟩ := Octets.split?_eq_some.1 hsplit
    simp only [List.length_append, List.length_cons] at h
    omega
  · rfl

/-- A chain is read from the octet after the one that names the type of its first entry. -/
private theorem decodeChain_encodeChain {extensions : List ExtensionHeader}
    (h : ∀ extension ∈ extensions, Sound extension) {next : UInt8} {octets : Octets}
    (he : encodeChain extensions = next :: octets) (position : Nat) (rest : Octets) :
    decodeChain next position (octets ++ rest) = .ok (extensions, rest) := by
  induction extensions generalizing next octets position with
  | nil =>
    cases he
    unfold decodeChain
    rfl
  | cons extension extensions ih =>
    obtain ⟨following, more, hm⟩ := exists_encodeChain extensions
    obtain ⟨hx, hxs⟩ := List.forall_mem_cons.1 h
    obtain ⟨hu, hunits⟩ := hx.units
    rw [encodeChain, hm, List.cons_append, List.cons_append, List.cons.injEq] at he
    obtain ⟨rfl, rfl⟩ := he
    rw [List.cons_append, List.append_assoc, List.cons_append,
      decodeChain_entry hx.type hu (by omega), ih hxs hm]
    rfl

/-- Entries that were read can stand in a chain, and the chain is what they were read from. -/
private theorem of_decodeChain {next : UInt8} {position : Nat} {octets payload : Octets}
    {extensions : List ExtensionHeader}
    (h : decodeChain next position octets = .ok (extensions, payload)) :
    (∀ extension ∈ extensions, Sound extension) ∧
      next :: octets = encodeChain extensions ++ payload := by
  induction hn : octets.length using Nat.strongRecOn
    generalizing next position octets extensions with
  | _ n ih =>
    unfold decodeChain at h
    split at h
    · next hnext =>
      cases h
      rw [hnext]
      exact ⟨by simp, rfl⟩
    · next hnext =>
      split at h
      · simp at h
      · next units rest =>
        split at h
        · simp at h
        · next hunits =>
          split at h
          · next content following more hsplit =>
            simp only [bind_eq_ok, pure_eq, Except.ok.injEq, Prod.mk.injEq, Prod.exists] at h
            obtain ⟨tail, payload, hd, rfl, rfl⟩ := h
            obtain ⟨rfl, hc⟩ := Octets.split?_eq_some.1 hsplit
            simp only [List.length_cons, List.length_append] at hn
            obtain ⟨hs, ht⟩ := ih more.length (by omega) hd rfl
            have hu : units.toNat ≠ 0 := fun hz => hunits (UInt8.toNat_inj.1 hz)
            have hlt := units.toNat_lt
            have hsize : content.length + 2 = 4 * units.toNat := by omega
            have hfours : UInt8.ofNat ((content.length + 2) / 4) = units := by
              rw [hsize, Nat.mul_div_cancel_left _ (by decide), UInt8.ofNat_toNat]
            refine ⟨List.forall_mem_cons.2 ⟨⟨hnext, ?_, ?_⟩, hs⟩, ?_⟩
            · simp only [size, hsize, Nat.mul_mod_right]
            · simp only [size]
              omega
            · simp only [encodeChain, size, hfours, ht, List.cons_append, List.append_assoc]
          · simp at h

/-- A chain is read from its octets, and from no others. -/
theorem decodeChain_eq_ok {next : UInt8} {position : Nat} {octets payload : Octets}
    {extensions : List ExtensionHeader} :
    decodeChain next position octets = .ok (extensions, payload) ↔
      (∀ extension ∈ extensions, Sound extension) ∧
        next :: octets = encodeChain extensions ++ payload := by
  refine ⟨of_decodeChain, fun ⟨hs, ho⟩ => ?_⟩
  obtain ⟨first, chain, hc⟩ := exists_encodeChain extensions
  rw [hc, List.cons_append, List.cons.injEq] at ho
  obtain ⟨rfl, rfl⟩ := ho
  exact decodeChain_encodeChain hs hc position payload

end ExtensionHeader

namespace V1Header
variable {header : V1Header} {policy : LengthPolicy}

/-- Octets of the header that its length field counts. -/
def counted (header : V1Header) : Nat := header.size - fixedSize

/-- What a header does not send has the value that a reader gives it. -/
structure Sound (header : V1Header) : Prop where
  extensions : ∀ extension ∈ header.extensions, extension.Sound
  extended : header.extended = false → header.extensions = []
  optional : header.hasOptional = false → header.sequence = 0 ∧ header.packetNumber = 0

theorem encode_eq_ok {n : Nat} {front : Octets} :
    header.encode n = .ok front ↔ header.counted + n ≤ maxLength ∧
      front = header.flags :: header.type :: Octets.ofNat 2 (header.counted + n)
        ++ Octets.ofUInt32 header.teid
        ++ if header.hasOptional then
            Octets.ofUInt16 header.sequence ++ header.packetNumber
              :: ExtensionHeader.encodeChain header.extensions
          else [] := by
  simp [encode, counted, lengthField_eq_ok, eq_comm (b := front), and_assoc]

private theorem marks_flags : ∀ protocolType spareMark extended sequenced numbered : Bool,
    let flags : UInt8 := 0x20 ||| (if protocolType then 0x10 else 0) ||| (if spareMark then 8 else 0)
      ||| (if extended then 4 else 0) ||| (if sequenced then 2 else 0)
      ||| (if numbered then 1 else 0)
    flags >>> 5 = 1 ∧ (flags &&& 0x10 != 0) = protocolType ∧ (flags &&& 8 != 0) = spareMark ∧
      (flags &&& 4 != 0) = extended ∧ (flags &&& 2 != 0) = sequenced ∧
      (flags &&& 1 != 0) = numbered := by
  decide

/-- The three lowest marks are those of the optional block. -/
theorem optional_octet : ∀ flags : UInt8,
    (flags &&& 4 != 0 || flags &&& 2 != 0 || flags &&& 1 != 0) = (flags &&& 7 != 0) :=
  forall_octet (by decide +kernel)

theorem version_flags (header : V1Header) : header.flags >>> 5 = 1 :=
  (marks_flags header.protocolType header.spareMark header.extended header.sequenced
    header.numbered).1

theorem extended_flags (header : V1Header) : (header.flags &&& 4 != 0) = header.extended :=
  (marks_flags header.protocolType header.spareMark header.extended header.sequenced
    header.numbered).2.2.2.1

theorem counted_of_hasOptional (h : header.hasOptional = true) :
    header.counted = optionalSize + total (header.extensions.map ExtensionHeader.size) := by
  rw [counted, size, if_pos h]
  omega

theorem counted_of_not_optional (h : header.hasOptional = false) : header.counted = 0 := by
  rw [counted, size, h]
  rfl

theorem length_optional (h : header.hasOptional = true) :
    (Octets.ofUInt16 header.sequence ++ header.packetNumber
      :: ExtensionHeader.encodeChain header.extensions).length = header.counted := by
  rw [counted_of_hasOptional h]
  simp only [List.length_append, Octets.length_ofUInt16, List.length_cons,
    ExtensionHeader.length_encodeChain, optionalSize]
  omega

theorem size_eq (header : V1Header) : header.size = fixedSize + header.counted := by
  rw [counted, size]
  split <;> omega

/-- How many octets of the block have no meaning: the last one, which names the first extension header,
if there are to be none. -/
def spares (header : V1Header) : Nat := if header.hasOptional && !header.extended then 1 else 0

/-- The octets after the end point number, with given spare octets. -/
def block (header : V1Header) (spare : Octets) : Octets :=
  if header.hasOptional then
    Octets.ofUInt16 header.sequence ++ header.packetNumber
      :: if header.extended then ExtensionHeader.encodeChain header.extensions else spare
  else []

/-- The octets of a header with a given length and given spare octets. -/
def front (header : V1Header) (length : Nat) (spare : Octets) : Octets :=
  header.flags :: header.type :: Octets.ofNat 2 length ++ Octets.ofUInt32 header.teid
    ++ header.block spare

theorem hasOptional_of_extended (h : header.extended = true) : header.hasOptional = true := by
  rw [hasOptional, h]
  rfl

theorem block_of_extended (h : header.extended = true) (spare : Octets) :
    header.block spare = Octets.ofUInt16 header.sequence ++ header.packetNumber
      :: ExtensionHeader.encodeChain header.extensions := by
  rw [block, if_pos (hasOptional_of_extended h), if_pos h]

theorem block_of_optional (ho : header.hasOptional = true) (he : header.extended = false)
    (spare : Octets) :
    header.block spare = Octets.ofUInt16 header.sequence ++ header.packetNumber :: spare := by
  rw [block, if_pos ho, if_neg (by rw [he]; decide)]

theorem block_of_not_optional (h : header.hasOptional = false) (spare : Octets) :
    header.block spare = [] := if_neg (by rw [h]; decide)

theorem spares_of_optional (ho : header.hasOptional = true) (he : header.extended = false) :
    header.spares = 1 := by
  rw [spares, ho, he]
  rfl

theorem spares_of_extended (h : header.extended = true) : header.spares = 0 := by
  rw [spares, h, Bool.not_true, Bool.and_false]
  rfl

theorem Sound.length_block (sound : Sound header) {spare : Octets}
    (h : spare.length = header.spares) : (header.block spare).length = header.counted := by
  cases ho : header.hasOptional with
  | true =>
    rw [counted_of_hasOptional ho]
    cases he : header.extended with
    | true =>
      simp only [block_of_extended he, List.length_append, Octets.length_ofUInt16,
        List.length_cons, ExtensionHeader.length_encodeChain, optionalSize]
      omega
    | false =>
      simp only [block_of_optional ho he, List.length_append, Octets.length_ofUInt16,
        List.length_cons, h, spares_of_optional ho he, sound.extended he, List.map_nil, total,
        optionalSize]
  | false =>
    rw [block_of_not_optional ho, counted_of_not_optional ho]
    rfl

theorem Sound.length_front (sound : Sound header) {spare : Octets}
    (h : spare.length = header.spares) (length : Nat) :
    (header.front length spare).length = header.size := by
  simp only [front, List.length_append, List.length_cons, Octets.length_ofNat,
    Octets.length_ofUInt32, sound.length_block h, size_eq, fixedSize]

/-- A header without extension headers ends with a zero. -/
theorem Sound.encode_eq_ok (sound : Sound header) {n : Nat} {octets : Octets} :
    header.encode n = .ok octets ↔ header.counted + n ≤ maxLength ∧
      octets = header.front (header.counted + n) (List.replicate header.spares 0) := by
  rw [V1Header.encode_eq_ok, front]
  cases ho : header.hasOptional with
  | true =>
    cases he : header.extended with
    | true => rw [block_of_extended he, if_pos rfl]
    | false =>
      rw [block_of_optional ho he, spares_of_optional ho he, sound.extended he, if_pos rfl]
      rfl
  | false =>
    rw [block_of_not_optional ho]
    rfl

/-- A header without the values that its block gives it. -/
def bare (header : V1Header) : V1Header :=
  { header with sequence := 0, packetNumber := 0, extensions := [] }

theorem Sound.parseOptional_block (sound : Sound header) (ho : header.hasOptional = true)
    {spare : Octets} (hs : spare.length = header.spares) (payload : Octets) :
    header.bare.parseOptional (header.block spare ++ payload) = .ok (header, payload) := by
  obtain ⟨s₁, s₂, hsequence, hnumber⟩ := Octets.exists_ofUInt16 header.sequence
  by_cases he : header.extended = true
  · obtain ⟨next, chain, hc⟩ := ExtensionHeader.exists_encodeChain header.extensions
    have hd := ExtensionHeader.decodeChain_encodeChain sound.extensions hc
      (fixedSize + optionalSize) payload
    have hbare : header.bare.extended = true := he
    rw [block_of_extended he, hsequence, hc]
    simp only [List.cons_append, List.nil_append, parseOptional, hbare, if_true, hd, ok_bind,
      hnumber, pure_eq]
    rw [← he]
    rfl
  · have he := Bool.eq_false_iff.2 he
    obtain ⟨next, rfl⟩ := List.length_eq_one_iff.1 (hs.trans (spares_of_optional ho he))
    have hd : ExtensionHeader.decodeChain 0 (fixedSize + optionalSize) payload = .ok ([], payload) :=
      ExtensionHeader.decodeChain_eq_ok.2 ⟨by simp, rfl⟩
    have hbare : header.bare.extended = false := he
    rw [block_of_optional ho he, hsequence]
    simp only [List.cons_append, List.nil_append, parseOptional, hbare, Bool.false_eq_true, if_false,
      hd, ok_bind, hnumber, pure_eq, ← sound.extended he]
    rw [← he]
    rfl

/-- The optional block gives a header its last values. -/
private theorem block_of_parseOptional {blank : V1Header} {counted payload : Octets}
    (hb : blank.bare = blank) (ho : blank.hasOptional = true)
    (h : blank.parseOptional counted = .ok (header, payload)) :
    Sound header ∧ header.bare = blank ∧
      ∃ spare, spare.length = header.spares ∧ counted = header.block spare ++ payload := by
  unfold parseOptional at h
  split at h
  · next s₁ s₂ number next rest =>
    simp only [bind_eq_ok, pure_eq, Except.ok.injEq, Prod.mk.injEq, Prod.exists] at h
    obtain ⟨extensions, payload, hd, rfl, rfl⟩ := h
    obtain ⟨hs, hc⟩ := ExtensionHeader.decodeChain_eq_ok.1 hd
    by_cases he : blank.extended = true
    · rw [if_pos he] at hc
      refine ⟨⟨hs, fun hn => ?_, fun hn => ?_⟩, hb, [], ?_, ?_⟩
      · cases he.symm.trans hn
      · cases ho.symm.trans hn
      · rw [spares_of_extended]
        · rfl
        · exact he
      · rw [block_of_extended, Octets.ofUInt16_uint16]
        · simp only [List.cons_append, List.nil_append, hc]
        · exact he
    · rw [if_neg he] at hc
      -- A chain that starts with zero is empty.
      cases extensions with
      | nil =>
        rw [ExtensionHeader.encodeChain, List.cons_append, List.nil_append, List.cons.injEq] at hc
        refine ⟨⟨hs, fun _ => rfl, fun hn => ?_⟩, hb, [next], ?_, ?_⟩
        · cases ho.symm.trans hn
        · rw [spares_of_optional]
          · rfl
          · exact ho
          · exact Bool.eq_false_iff.2 he
        · rw [block_of_optional, Octets.ofUInt16_uint16, hc.2]
          · rfl
          · exact ho
          · exact Bool.eq_false_iff.2 he
      | cons extension extensions =>
        rw [ExtensionHeader.encodeChain, List.cons_append, List.cons_append, List.cons.injEq] at hc
        exact absurd hc.1.symm (hs extension List.mem_cons_self).type
  · simp at h

private theorem flags_marks : ∀ flags : UInt8, flags >>> 5 = 1 →
    (0x20 ||| (if flags &&& 0x10 != 0 then 0x10 else 0) ||| (if flags &&& 8 != 0 then 8 else 0)
      ||| (if flags &&& 4 != 0 then 4 else 0) ||| (if flags &&& 2 != 0 then 2 else 0)
      ||| (if flags &&& 1 != 0 then 1 else 0) : UInt8) = flags :=
  forall_octet (by decide +kernel)

private theorem front_of_parse {octets payload : Octets}
    (h : parse policy octets = .ok (header, payload)) :
    Sound header ∧ ∃ length spare rest, length ≤ maxLength ∧ spare.length = header.spares ∧
      octets = header.front length spare ++ rest ∧ header.counted ≤ length ∧
      policy.payload header.size (length - header.counted) rest = .ok payload := by
  unfold parse at h
  split at h
  · next flags type l₁ l₂ t₁ t₂ t₃ t₄ rest =>
    by_cases hv : flags >>> 5 = 1
    · simp only [hv, ne_eq, not_true, if_false] at h
      have hf := flags_marks flags hv
      have hl : Octets.ofNat 2 (Octets.toNat [l₁, l₂]) = [l₁, l₂] := Octets.ofNat_toNat rfl
      split at h
      · next hopt =>
        split at h
        · simp at h
        · simp only [bind_eq_ok] at h
          obtain ⟨_, _, covered, hp, h⟩ := h
          obtain ⟨sound, hbare, spare, hspare, rfl⟩ := block_of_parseOptional rfl hopt h
          obtain ⟨back, rfl, hc, hp⟩ :=
            (LengthPolicy.payload_eq_ok_append _ header.size).1 hp
          rw [sound.length_block hspare] at hc hp
          have hflags : header.flags = flags := (congrArg V1Header.flags hbare).trans hf
          have htype : header.type = type := congrArg V1Header.type hbare
          have hteid : header.teid = Octets.uint32 [t₁, t₂, t₃, t₄] :=
            congrArg V1Header.teid hbare
          refine ⟨sound, _, spare, back, toNat_two_le l₁ l₂, hspare, ?_, hc, hp⟩
          simp only [front, hflags, htype, hteid, hl, Octets.ofUInt32_uint32, List.cons_append,
            List.nil_append]
      · next hopt =>
        simp only [Nat.not_lt_zero, if_false, bind_eq_ok, pure_eq, Except.ok.injEq,
          Prod.mk.injEq] at h
        obtain ⟨_, _, covered, hp, rfl, rfl⟩ := h
        have ho := Bool.eq_false_iff.2 hopt
        refine ⟨⟨by simp, fun _ => rfl, fun _ => ⟨rfl, rfl⟩⟩, _, [], rest, toNat_two_le l₁ l₂,
          ?_, ?_, ?_, ?_⟩
        · rw [spares, ho]
          rfl
        · rw [front, block_of_not_optional ho]
          simp only [V1Header.flags, hf, hl, Octets.ofUInt32_uint32, List.cons_append,
            List.nil_append, List.append_nil]
        · rw [counted_of_not_optional ho]
          exact Nat.zero_le _
        · rw [counted_of_not_optional ho, size, ho]
          exact hp
    · simp [hv] at h
  · simp at h

private theorem Sound.parse_front (sound : Sound header) {length : Nat} {spare rest payload : Octets}
    (hn : length ≤ maxLength) (hspare : spare.length = header.spares) (hc : header.counted ≤ length)
    (hp : policy.payload header.size (length - header.counted) rest = .ok payload) :
    parse policy (header.front length spare ++ rest) = .ok (header, payload) := by
  obtain ⟨l₁, l₂, hl, hlength⟩ := exists_lengthField hn
  obtain ⟨t₁, t₂, t₃, t₄, ht, hteid⟩ := Octets.exists_ofUInt32 header.teid
  obtain ⟨hversion, hprotocol, hmark, he, hq, hu⟩ : header.flags >>> 5 = 1 ∧
      (header.flags &&& 0x10 != 0) = header.protocolType ∧
      (header.flags &&& 8 != 0) = header.spareMark ∧
      (header.flags &&& 4 != 0) = header.extended ∧
      (header.flags &&& 2 != 0) = header.sequenced ∧
      (header.flags &&& 1 != 0) = header.numbered :=
    marks_flags header.protocolType header.spareMark header.extended header.sequenced
      header.numbered
  have hblock := sound.length_block hspare
  have hcut := (LengthPolicy.payload_eq_ok_append fixedSize header.size).2
    ⟨rest, rfl, hblock.symm ▸ hc, hblock.symm ▸ hp⟩
  simp only [front, hl, ht, List.cons_append, List.nil_append, parse, hversion, hprotocol, hmark,
    he, hq, hu, hlength, hteid, ne_eq, not_true, if_false]
  cases ho : header.hasOptional with
  | true =>
    have hopt : header.bare.hasOptional = true := ho
    have hsize : optionalSize ≤ header.counted := by
      rw [counted_of_hasOptional ho]
      omega
    have hb : ({ header with sequence := 0, packetNumber := 0, extensions := [] } : V1Header) =
        header.bare := rfl
    simp only [hb, hopt, if_true]
    rw [if_neg (by omega), ensureSize, if_neg (by simp only [List.length_append]; omega), hcut]
    exact sound.parseOptional_block ho hspare payload
  | false =>
    have hopt : header.bare.hasOptional = false := ho
    obtain ⟨hsequence, hnumber⟩ := sound.optional ho
    have hext : header.extensions = [] := sound.extended (by
      cases hext : header.extended with
      | true => cases ho.symm.trans (hasOptional_of_extended hext)
      | false => rfl)
    have hb : ({ header with sequence := 0, packetNumber := 0, extensions := [] } : V1Header) =
        header := by rw [← hsequence, ← hnumber, ← hext]
    have hempty : header.block spare = [] := by rw [block, ho]; rfl
    simp only [hb, ho, Bool.false_eq_true, if_false]
    rw [hempty] at hcut ⊢
    rw [if_neg (by omega), ensureSize, if_neg (by omega), hcut]
    rfl

/-- A datagram is read as a header and what the length policy allows of the octets after it, if it
starts with that header, whatever the spare octet is, and the length covers the header. -/
theorem parse_eq_ok {octets payload : Octets} :
    parse policy octets = .ok (header, payload) ↔ Sound header ∧
      ∃ length spare rest, length ≤ maxLength ∧ spare.length = header.spares ∧
        octets = header.front length spare ++ rest ∧ header.counted ≤ length ∧
        policy.payload header.size (length - header.counted) rest = .ok payload := by
  refine ⟨front_of_parse, ?_⟩
  rintro ⟨sound, length, spare, rest, hn, hspare, rfl, hc, hp⟩
  exact sound.parse_front hn hspare hc hp

end V1Header

end GtpControl
