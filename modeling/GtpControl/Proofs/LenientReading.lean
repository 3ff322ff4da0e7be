import GtpControl.Proofs.MessageFraming

/-! # Lenient reading is strict reading of a datagram whose length field has been put right -/
namespace GtpControl

namespace Version

/-- How many octets of a datagram its length field does not count. -/
def uncounted (flags : UInt8) : Version → Nat
  | .v0 => 20
  | .v1 => 8
  | .v2 => 4
  | .prime => if flags &&& 1 != 0 then 20 else 6

/-- A datagram whose length field claims an end past the datagram gets the number of the octets that
are there to be counted. -/
def repaired (version : Version) : Octets → Octets
  | flags :: type :: l₁ :: l₂ :: rest =>
    if version.uncounted flags + Octets.toNat [l₁, l₂] ≤ 4 + rest.length then
      flags :: type :: l₁ :: l₂ :: rest
    else flags :: type :: Octets.ofNat 2 (4 + rest.length - version.uncounted flags) ++ rest
  | octets => octets

/-- A repair leaves all octets but those of the length field. -/
theorem repaired_cases (version : Version) (octets : Octets) :
    version.repaired octets = octets ∨ ∃ flags type l₁ l₂ rest length,
      octets = flags :: type :: l₁ :: l₂ :: rest ∧
        version.repaired octets = flags :: type :: Octets.ofNat 2 length ++ rest := by
  unfold repaired
  split
  · next flags type l₁ l₂ rest =>
    split
    · exact .inl rfl
    · exact .inr ⟨flags, type, l₁, l₂, rest, _, rfl, rfl⟩
  · exact .inl rfl

end Version

namespace LengthPolicy
variable {headerSize declared : Nat} {payload rest : Octets}

/-- A lenient reader takes a length that is too large for the number of octets that are left. -/
theorem payload_lenient (headerSize declared : Nat) (rest : Octets) :
    lenient.payload headerSize declared rest =
      strict.payload headerSize (min declared rest.length) rest := by
  simp only [LengthPolicy.payload, Nat.min_le_right, if_true]
  split
  · next h => rw [Nat.min_eq_left h]
  · next h => rw [Nat.min_eq_right (by omega), List.take_length]

theorem le_of_payload_strict (h : strict.payload headerSize declared rest = .ok payload) :
    declared ≤ rest.length := by
  rw [LengthPolicy.payload] at h
  split at h
  · next hd => exact hd
  · cases h

end LengthPolicy

namespace Header
variable {header : Header} {version : Version} {octets payload spare rest : Octets}

theorem size_eq_uncounted (header : Header) :
    header.size = header.version.uncounted header.flags + header.counted := by
  cases header with
  | v0 h₀ => rfl
  | v1 h₁ => exact h₁.size_eq
  | v2 h₂ => rfl
  | prime h₃ =>
    simp only [size, PrimeHeader.size, Header.version, Version.uncounted, flags, counted,
      PrimeHeader.long_flags]
    rfl

/-- The length stands in the third and fourth octet, and nothing else depends on it. -/
theorem exists_front (header : Header) (spare : Octets) :
    ∃ tail, ∀ length,
      header.front length spare = header.flags :: header.type :: Octets.ofNat 2 length ++ tail := by
  refine ⟨(header.front 0 spare).drop 4, fun length => ?_⟩
  cases header <;> rfl

theorem front_injective {length length' : Nat} (h : length ≤ maxLength) (h' : length' ≤ maxLength)
    (he : header.front length spare ++ rest = header.front length' spare ++ rest) :
    length = length' := by
  obtain ⟨tail, htail⟩ := header.exists_front spare
  rw [htail, htail, List.append_cancel_right_eq, List.append_cancel_right_eq, List.cons.injEq,
    List.cons.injEq] at he
  have hn := congrArg Octets.toNat he.2.2
  rwa [toNat_lengthField h, toNat_lengthField h'] at hn

/-- The length of a repaired datagram is the one that it claims, but no more than what is there. -/
theorem repaired_front (values : ∀ h, header = .v1 h → h.Sound) (hs : spare.length = header.spares)
    {length : Nat} (h : length ≤ maxLength) (rest : Octets) :
    header.version.repaired (header.front length spare ++ rest) =
      header.front (min length (header.counted + rest.length)) spare ++ rest := by
  obtain ⟨tail, htail⟩ := header.exists_front spare
  obtain ⟨l₁, l₂, hl, hlength⟩ := exists_lengthField h
  have hsize := length_front values hs length
  simp only [htail, size_eq_uncounted, List.length_append, List.length_cons, Octets.length_ofNat]
    at hsize
  simp only [htail, hl, List.cons_append, List.nil_append, Version.repaired, hlength,
    List.length_append]
  split
  · next hd => rw [Nat.min_eq_left (by omega), hl]; rfl
  · next hd =>
    have hc : 4 + (tail.length + rest.length) - header.version.uncounted header.flags =
        header.counted + rest.length := by omega
    rw [Nat.min_eq_right (by omega), hc, List.append_assoc]

/-- What a repaired datagram starts with, the datagram starts with but for its length. -/
theorem exists_of_repaired {length : Nat} (h : length ≤ maxLength)
    (hr : version.repaired octets = header.front length spare ++ rest) :
    ∃ claimed, claimed ≤ maxLength ∧ octets = header.front claimed spare ++ rest := by
  obtain hv | ⟨flags, type, l₁, l₂, more, kept, rfl, hv⟩ := version.repaired_cases octets
  · exact ⟨length, h, hv.symm.trans hr⟩
  · obtain ⟨tail, htail⟩ := header.exists_front spare
    have hl : Octets.ofNat 2 (Octets.toNat [l₁, l₂]) = [l₁, l₂] := Octets.ofNat_toNat rfl
    rw [hv, htail, List.append_assoc, List.cons_append, List.cons_append, List.cons_append,
      List.cons_append, List.cons.injEq, List.cons.injEq] at hr
    obtain ⟨rfl, rfl, hr⟩ := hr
    obtain ⟨-, rfl⟩ := List.append_inj hr (by simp)
    refine ⟨_, toNat_two_le l₁ l₂, ?_⟩
    rw [htail, hl]
    rfl

theorem parse_lenient_iff :
    parse version .lenient octets = .ok (header, payload) ↔
      parse version .strict (version.repaired octets) = .ok (header, payload) := by
  constructor
  · intro h
    obtain ⟨rfl, values, length, spare, rest, hn, hs, rfl, hc, hp⟩ := parse_eq_ok.1 h
    rw [repaired_front values hs hn]
    refine parse_eq_ok.2 ⟨rfl, values, _, spare, rest, by omega, hs, rfl, by omega, ?_⟩
    have hmin : min length (header.counted + rest.length) - header.counted =
        min (length - header.counted) rest.length := by omega
    rwa [hmin, ← LengthPolicy.payload_lenient]
  · intro h
    obtain ⟨rfl, values, length, spare, rest, hn, hs, ho, hc, hp⟩ := parse_eq_ok.1 h
    obtain ⟨claimed, hclaimed, rfl⟩ := exists_of_repaired hn ho
    rw [repaired_front values hs hclaimed] at ho
    have hlength := front_injective (by omega) hn ho
    refine parse_eq_ok.2 ⟨rfl, values, claimed, spare, rest, hclaimed, hs, rfl, by omega, ?_⟩
    have hmin : length - header.counted = min (claimed - header.counted) rest.length := by omega
    rwa [LengthPolicy.payload_lenient, ← hmin]

/-- A strict reader takes only what needs no repair. -/
theorem repaired_of_parse_strict (h : parse version .strict octets = .ok (header, payload)) :
    version.repaired octets = octets := by
  obtain ⟨rfl, values, length, spare, rest, hn, hs, rfl, hc, hp⟩ := parse_eq_ok.1 h
  have hd := LengthPolicy.le_of_payload_strict hp
  rw [repaired_front values hs hn, Nat.min_eq_left (by omega)]

end Header

namespace Message
/-- A datagram is read leniently as what it is read as strictly once its length field has been put
right, and the two readers agree on datagrams that need no repair. -/
theorem parse_lenient_repaired (version : Version) (octets : Octets) (message : Message) :
    (parse version .lenient octets = .ok message ↔
      parse version .strict (version.repaired octets) = .ok message) ∧
    (parse version .strict octets = .ok message ↔
      parse version .lenient octets = .ok message ∧ version.repaired octets = octets) := by
  have hlenient : parse version .lenient octets = .ok message ↔
      parse version .strict (version.repaired octets) = .ok message := by
    simp only [parse_eq_ok, Header.parse_lenient_iff]
  refine ⟨hlenient, fun h => ?_, fun ⟨h, hr⟩ => ?_⟩
  · obtain ⟨header, payload, elements, hp, -⟩ := parse_eq_ok.1 h
    have hr := Header.repaired_of_parse_strict hp
    exact ⟨hlenient.2 (hr.symm ▸ h), hr⟩
  · rw [← hr]
    exact hlenient.1 h

/-- Charging data of ten octets that claim to be 512. -/
example : Version.prime.repaired [0x4e, 0xf0, 1, 0xfa, 0x67, 0x2b, 0x7e, 1, 0x7e, 1] =
    [0x4e, 0xf0, 0, 4, 0x67, 0x2b, 0x7e, 1, 0x7e, 1] := by decide

end Message
end GtpControl
