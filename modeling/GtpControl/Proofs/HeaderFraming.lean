import GtpControl.Header
import GtpControl.Proofs.HeaderFraming.V1
import GtpControl.Proofs.HeaderFraming.V2

/-! # Framing of headers: what is written is read back, and what was read can be written again -/
namespace GtpControl
namespace Header
variable {header : Header} {policy : LengthPolicy}

/-- Octets of the header that its length field counts. -/
def counted : Header → Nat
  | .v0 _ | .prime _ => 0
  | .v1 h => h.counted
  | .v2 h => h.counted

/-- A header that is read again as what it is: its flags name its version, and it has no values that
it does not send. -/
structure Sound (header : Header) : Prop where
  version : Version.ofFlags header.flags = .ok header.version
  values : ∀ h, header = .v1 h → h.Sound

theorem exists_encode {n : Nat} :
    (∃ front, header.encode n = .ok front) ↔ header.counted + n ≤ maxLength := by
  cases header <;>
    simp only [encode, counted, V0Header.encode_eq_ok, V1Header.encode_eq_ok,
      V2Header.encode_eq_ok, PrimeHeader.encode_eq_ok, exists_and_left, exists_eq, and_true,
      Nat.zero_add]

/-- A header can be written unless the message is too long. -/
theorem encode_eq_error {n : Nat} {e : CodecError} :
    header.encode n = .error e ↔
      maxLength < header.counted + n ∧ e = .tooLarge (header.counted + n) := by
  cases header <;>
    simp only [encode, V0Header.encode, V1Header.encode, V2Header.encode, PrimeHeader.encode,
      counted, V1Header.counted, V2Header.counted, V2Header.size, Nat.add_sub_cancel_left,
      bind_eq_error, lengthField_eq_error, pure_eq, reduceCtorEq, and_false, exists_false, or_false,
      Nat.zero_add]

theorem length_encode {n : Nat} {front : Octets} (h : header.encode n = .ok front) :
    front.length = header.size := by
  cases header with
  | v0 h₀ =>
    obtain ⟨_, rfl⟩ := V0Header.encode_eq_ok.1 h
    exact V0Header.length_front (List.length_replicate ..) h₀ n
  | v1 h₁ =>
    obtain ⟨_, rfl⟩ := V1Header.encode_eq_ok.1 h
    rw [size, V1Header.size_eq]
    cases ho : h₁.hasOptional with
    | true =>
      have hl := V1Header.length_optional ho
      simp only [if_true, List.length_append, List.length_cons, Octets.length_ofNat,
        Octets.length_ofUInt32, V1Header.fixedSize] at hl ⊢
      omega
    | false => simp [V1Header.fixedSize, V1Header.counted, V1Header.size, ho]
  | v2 h₂ =>
    obtain ⟨_, rfl⟩ := V2Header.encode_eq_ok.1 h
    exact h₂.length_front _
  | prime h₃ =>
    obtain ⟨_, rfl⟩ := PrimeHeader.encode_eq_ok.1 h
    exact h₃.length_front (List.length_replicate ..) n

theorem head_encode {n : Nat} {front : Octets} (h : header.encode n = .ok front) :
    ∃ more, front = header.flags :: more := by
  cases header with
  | v0 h₀ => exact ⟨_, (V0Header.encode_eq_ok.1 h).2⟩
  | v1 h₁ => exact ⟨_, (V1Header.encode_eq_ok.1 h).2⟩
  | v2 h₂ => exact ⟨_, (V2Header.encode_eq_ok.1 h).2⟩
  | prime h₃ => exact ⟨_, (PrimeHeader.encode_eq_ok.1 h).2⟩

theorem detect_encode {n : Nat} {front : Octets} (sound : Sound header)
    (h : header.encode n = .ok front) (rest : Octets) :
    Version.detect (front ++ rest) = .ok header.version := by
  obtain ⟨more, rfl⟩ := head_encode h
  exact sound.version

/-! ## The octets of a header

They are its values, a length, and in some versions spare octets, which have no meaning. -/

/-- How many spare octets a header has. -/
def spares : Header → Nat
  | .v0 _ => V0Header.spareSize
  | .v1 h => h.spares
  | .v2 _ => 0
  | .prime h => h.spares

/-- The spare octets that are sent. -/
def filler : Header → Octets
  | .v0 _ => List.replicate V0Header.spareSize 0xff
  | .v1 h => List.replicate h.spares 0
  | .v2 _ => []
  | .prime h => List.replicate h.spares 0xff

@[simp] theorem length_filler (header : Header) : header.filler.length = header.spares := by
  cases header <;> simp [filler, spares]

/-- The octets of a header with a given length and given spare octets. -/
def front (length : Nat) (spare : Octets) : Header → Octets
  | .v0 h => h.front length spare
  | .v1 h => h.front length spare
  | .v2 h => h.front length
  | .prime h => h.front length spare

theorem head_front (length : Nat) (spare : Octets) (header : Header) :
    ∃ more, header.front length spare = header.flags :: more := by
  cases header <;> exact ⟨_, rfl⟩

theorem length_front (values : ∀ h, header = .v1 h → h.Sound) {spare : Octets}
    (h : spare.length = header.spares) (length : Nat) :
    (header.front length spare).length = header.size := by
  cases header with
  | v0 h₀ => exact V0Header.length_front h h₀ length
  | v1 h₁ => exact (values h₁ rfl).length_front h length
  | v2 h₂ => exact h₂.length_front length
  | prime h₃ => exact h₃.length_front h length

theorem encode_eq_ok (values : ∀ h, header = .v1 h → h.Sound) {n : Nat} {octets : Octets} :
    header.encode n = .ok octets ↔ header.counted + n ≤ maxLength ∧
      octets = header.front (header.counted + n) header.filler := by
  cases header with
  | v0 h₀ => simp only [encode, counted, front, filler, V0Header.encode_eq_ok, Nat.zero_add]
  | v1 h₁ => exact (values h₁ rfl).encode_eq_ok
  | v2 h₂ => exact V2Header.encode_eq_ok
  | prime h₃ => simp only [encode, counted, front, filler, PrimeHeader.encode_eq_ok, Nat.zero_add]

/-- A datagram is read as a header and what the length policy allows of the octets after it, if it
starts with that header, whatever the spare octets are, and the length covers the counted part. -/
theorem parse_eq_ok {version : Version} {octets payload : Octets} :
    parse version policy octets = .ok (header, payload) ↔
      header.version = version ∧ (∀ h, header = .v1 h → h.Sound) ∧
        ∃ length spare rest, length ≤ maxLength ∧ spare.length = header.spares ∧
          octets = header.front length spare ++ rest ∧ header.counted ≤ length ∧
          policy.payload header.size (length - header.counted) rest = .ok payload := by
  constructor
  · intro h
    cases version <;>
      simp only [parse, bind_eq_ok, pure_eq, Except.ok.injEq, Prod.mk.injEq, Prod.exists] at h <;>
      obtain ⟨_, _, hp, rfl, rfl⟩ := h
    · obtain ⟨length, spare, rest, hn, hs, ho, hp⟩ := V0Header.parse_eq_ok.1 hp
      exact ⟨rfl, by simp, length, spare, rest, hn, hs, ho, Nat.zero_le _, hp⟩
    · obtain ⟨sound, hp⟩ := V1Header.parse_eq_ok.1 hp
      exact ⟨rfl, fun _ he => by cases he; exact sound, hp⟩
    · obtain ⟨length, rest, hn, ho, hc, hp⟩ := V2Header.parse_eq_ok.1 hp
      exact ⟨rfl, by simp, length, [], rest, hn, rfl, ho, hc, hp⟩
    · obtain ⟨length, spare, rest, hn, hs, ho, hp⟩ := PrimeHeader.parse_eq_ok.1 hp
      exact ⟨rfl, by simp, length, spare, rest, hn, hs, ho, Nat.zero_le _, hp⟩
  · rintro ⟨rfl, values, length, spare, rest, hn, hs, ho, hc, hp⟩
    cases header with
    | v0 h₀ =>
      have h := V0Header.parse_eq_ok.2 ⟨length, spare, rest, hn, hs, ho, hp⟩
      simp only [version, parse, h, ok_bind, pure_eq]
    | v1 h₁ =>
      have h := V1Header.parse_eq_ok.2 ⟨values h₁ rfl, length, spare, rest, hn, hs, ho, hc, hp⟩
      simp only [version, parse, h, ok_bind, pure_eq]
    | v2 h₂ =>
      have h := V2Header.parse_eq_ok.2 ⟨length, rest, hn, ho, hc, hp⟩
      simp only [version, parse, h, ok_bind, pure_eq]
    | prime h₃ =>
      have h := PrimeHeader.parse_eq_ok.2 ⟨length, spare, rest, hn, hs, ho, hp⟩
      simp only [version, parse, h, ok_bind, pure_eq]

/-! ## Writing and reading -/

/-- A header is read as it was written, whatever goes after the payload. -/
theorem parse_encode {payload octets : Octets} (values : ∀ h, header = .v1 h → h.Sound)
    (h : header.encode payload.length = .ok octets) (policy : LengthPolicy) (rest : Octets) :
    parse header.version policy (octets ++ (payload ++ rest)) = .ok (header, payload) := by
  obtain ⟨hn, rfl⟩ := (encode_eq_ok values).1 h
  refine parse_eq_ok.2 ⟨rfl, values, _, _, payload ++ rest, hn, header.length_filler, rfl,
    Nat.le_add_right .., ?_⟩
  exact LengthPolicy.payload_append (Nat.add_sub_cancel_left ..).symm ..

theorem version_of_parse {version : Version} {octets payload : Octets}
    (h : parse version policy octets = .ok (header, payload)) : header.version = version :=
  (parse_eq_ok.1 h).1

theorem unpacked_of_parse {version : Version} {octets payload : Octets}
    (h : parse version policy octets = .ok (header, payload)) :
    Unpacked octets payload header.flags header.size header.counted := by
  obtain ⟨-, values, length, spare, rest, hn, hs, rfl, hc, hp⟩ := parse_eq_ok.1 h
  obtain ⟨hd, hr⟩ := LengthPolicy.length_payload hp
  obtain ⟨more, hm⟩ := header.head_front length spare
  refine ⟨by rw [hm]; rfl, ?_, by omega⟩
  rw [List.length_append, length_front values hs]
  omega

/-- A header that was read from a datagram of its version can be written again. -/
theorem sound_of_parse {version : Version} {octets payload : Octets}
    (hv : Version.detect octets = .ok version)
    (h : parse version policy octets = .ok (header, payload)) :
    header.version = version ∧ Sound header ∧
      Unpacked octets payload header.flags header.size header.counted := by
  obtain ⟨hversion, values, -⟩ := parse_eq_ok.1 h
  have hu := unpacked_of_parse h
  obtain ⟨more, rfl⟩ := List.head?_eq_some_iff.1 hu.flags
  refine ⟨hversion, ⟨?_, values⟩, hu⟩
  rw [hversion]
  exact hv

/-- The first octet of a new header. -/
def newFlags (version : Version) (withTeid : Bool) : UInt8 :=
  match version with
  | .v0 => 0x1e
  | .v1 => 0x32
  | .v2 => if withTeid then 0x48 else 0x40
  | .prime => 0x4e

theorem flags_make (version : Version) (type : UInt8) (values : Values) :
    (make version type values).flags = newFlags version values.teid.isSome := by
  cases version with
  | v0 => rfl
  | v1 =>
    simp only [make, flags, V1Header.flags, if_true, Bool.false_eq_true, if_false, newFlags]
    decide
  | v2 =>
    simp only [make, flags, V2Header.flags, V2Header.clearMarks, Bool.false_eq_true, if_false,
      newFlags]
    cases values.teid.isSome <;> simp only [if_true, Bool.false_eq_true, if_false] <;> decide
  | prime =>
    simp only [make, flags, PrimeHeader.flags, PrimeHeader.currentVersion, Bool.false_eq_true,
      if_false, newFlags]
    decide

private theorem ofFlags_usual :
    Version.ofFlags 0x1e = .ok .v0 ∧ Version.ofFlags 0x32 = .ok .v1 ∧
      Version.ofFlags 0x40 = .ok .v2 ∧ Version.ofFlags 0x48 = .ok .v2 ∧
      Version.ofFlags 0x4e = .ok .prime :=
  ⟨rfl, rfl, rfl, rfl, rfl⟩

@[simp] theorem version_make (version : Version) (type : UInt8) (values : Values) :
    (make version type values).version = version := by
  cases version <;> rfl

@[simp] theorem type_make (version : Version) (type : UInt8) (values : Values) :
    (make version type values).type = type := by
  cases version <;> rfl

/-- The header of a new message can be read again. -/
theorem sound_make (version : Version) (type : UInt8) (values : Values) :
    Sound (make version type values) := by
  obtain ⟨hv0, hv1, hv2, hv2t, hprime⟩ := ofFlags_usual
  refine ⟨?_, fun h he => ?_⟩
  · rw [flags_make, version_make]
    cases version with
    | v0 => exact hv0
    | v1 => exact hv1
    | v2 =>
      cases values.teid with
      | none => exact hv2
      | some teid => exact hv2t
    | prime => exact hprime
  · cases version with
    | v1 =>
      cases he
      exact ⟨by simp, fun _ => rfl, fun ho => by simp [V1Header.hasOptional] at ho⟩
    | _ => cases he

end Header
end GtpControl
