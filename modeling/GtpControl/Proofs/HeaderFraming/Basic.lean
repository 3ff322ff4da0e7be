import GtpControl.Header.Prime
import GtpControl.Header.V0
import GtpControl.Proofs.OctetNumerals
import GtpControl.Proofs.Results

/-! # Framing of payloads, and of the headers of GTPv0 and GTP' -/
namespace GtpControl

namespace LengthPolicy
variable {policy : LengthPolicy} {headerSize declared : Nat} {payload rest : Octets}

theorem payload_append (h : payload.length = declared) (policy : LengthPolicy) (headerSize : Nat)
    (rest : Octets) : policy.payload headerSize declared (payload ++ rest) = .ok payload := by
  subst h
  simp [LengthPolicy.payload]

theorem length_payload (h : policy.payload headerSize declared rest = .ok payload) :
    payload.length ≤ declared ∧ payload.length ≤ rest.length := by
  unfold LengthPolicy.payload at h
  split at h
  · cases h
    simp only [List.length_take]
    omega
  · cases policy with
    | strict => cases h
    | lenient =>
      cases h
      omega

/-- What goes before the payload is counted or not. -/
theorem payload_eq_ok_append {front : Octets} (headerSize headerSize' : Nat) :
    policy.payload headerSize declared rest = .ok (front ++ payload) ↔
      ∃ back, rest = front ++ back ∧ front.length ≤ declared ∧
        policy.payload headerSize' (declared - front.length) back = .ok payload := by
  simp only [LengthPolicy.payload]
  constructor
  · intro h
    split at h
    · next hd =>
      have htake : rest.take declared = front ++ payload := Except.ok.inj h
      have hrest := List.take_append_drop declared rest
      have hl := congrArg List.length htake
      rw [htake] at hrest
      rw [List.length_take, List.length_append] at hl
      refine ⟨payload ++ rest.drop declared, by rw [← List.append_assoc, hrest], by omega, ?_⟩
      rw [if_pos (by rw [List.length_append]; omega), List.take_left' (by omega)]
      rfl
    · next hd =>
      cases policy with
      | strict => cases h
      | lenient =>
        cases h
        rw [List.length_append] at hd
        exact ⟨payload, rfl, by omega, if_neg (by omega)⟩
  · rintro ⟨back, rfl, hf, h⟩
    split at h
    · next hd =>
      cases h
      rw [if_pos (by rw [List.length_append]; omega), List.take_append, List.take_of_length_le hf]
      rfl
    · next hd =>
      cases policy with
      | strict => cases h
      | lenient =>
        cases h
        exact if_neg (by rw [List.length_append]; omega)

theorem payload_strict_append (h : strict.payload headerSize declared rest = .ok payload) (more : Octets) :
    strict.payload headerSize declared (rest ++ more) = .ok payload := by
  rw [LengthPolicy.payload] at h ⊢
  split at h
  · next hd =>
    cases h
    rw [if_pos (by rw [List.length_append]; omega), List.take_append_of_le_length hd]
    rfl
  · cases h

theorem exists_lenient (headerSize declared : Nat) (rest : Octets) :
    ∃ payload, lenient.payload headerSize declared rest = .ok payload := by
  rw [LengthPolicy.payload]
  split <;> exact ⟨_, rfl⟩

theorem error_of_payload {e : CodecError}
    (h : policy.payload headerSize declared rest = .error e) :
    ∃ needed available, e = .tooShort needed available := by
  unfold LengthPolicy.payload at h
  split at h
  · cases h
  · cases policy with
    | strict =>
      cases h
      exact ⟨_, _, rfl⟩
    | lenient => cases h

end LengthPolicy

/-- What can be said of octets that a header was read from: they start with its flags, they hold it
and the payload, and what its length counts fits the length field. -/
structure Unpacked (octets payload : Octets) (flags : UInt8) (size counted : Nat) : Prop where
  flags : octets.head? = some flags
  size : size + payload.length ≤ octets.length
  counted : counted + payload.length ≤ maxLength

/-! ## GTPv0 -/

namespace V0Header
variable {header : V0Header} {policy : LengthPolicy}

private theorem marks_flags :
    ∀ marks : Fin 32, UInt8.ofNat marks >>> 5 = 0 ∧ Fin.ofNat 32 (UInt8.ofNat marks).toNat = marks := by
  decide

theorem version_flags (header : V0Header) : header.flags >>> 5 = 0 :=
  (marks_flags header.marks).1

/-- The octets of a header with a given length and given spare octets. -/
def front (header : V0Header) (length : Nat) (spare : Octets) : Octets :=
  header.flags :: header.type :: Octets.ofNat 2 length ++ Octets.ofUInt16 header.sequence
    ++ Octets.ofUInt16 header.flowLabel ++ header.packetNumber :: spare
    ++ Octets.ofUInt64 header.tid

def spareSize : Nat := 3

theorem length_front {spare : Octets} (h : spare.length = spareSize) (header : V0Header)
    (length : Nat) : (header.front length spare).length = size := by
  simp [front, size, h, spareSize]

theorem encode_eq_ok {n : Nat} {octets : Octets} :
    header.encode n = .ok octets ↔
      n ≤ maxLength ∧ octets = header.front n (List.replicate spareSize 0xff) := by
  simp [encode, front, spareSize, lengthField_eq_ok, eq_comm (b := octets), and_assoc]

private theorem flags_marks : ∀ flags : UInt8, flags >>> 5 = 0 →
    UInt8.ofNat (Fin.ofNat 32 flags.toNat).val = flags :=
  forall_octet (by decide +kernel)

/-- A datagram is read as a header and what the length policy allows of the octets after it, if it
starts with that header, whatever the spare octets are. -/
theorem parse_eq_ok {octets payload : Octets} :
    parse policy octets = .ok (header, payload) ↔
      ∃ length spare rest, length ≤ maxLength ∧ spare.length = spareSize ∧
        octets = header.front length spare ++ rest ∧
        policy.payload size length rest = .ok payload := by
  constructor
  · intro h
    unfold parse at h
    split at h
    · next flags type l₁ l₂ s₁ s₂ f₁ f₂ number a b c t₁ t₂ t₃ t₄ t₅ t₆ t₇ t₈ rest =>
      by_cases hv : flags >>> 5 = 0
      · simp only [hv, ne_eq, not_true, if_false, bind_eq_ok, pure_eq, Except.ok.injEq,
          Prod.mk.injEq] at h
        obtain ⟨payload, hp, rfl, rfl⟩ := h
        have hl : Octets.ofNat 2 (Octets.toNat [l₁, l₂]) = [l₁, l₂] := Octets.ofNat_toNat rfl
        refine ⟨_, [a, b, c], rest, toNat_two_le l₁ l₂, rfl, ?_, hp⟩
        simp only [front, V0Header.flags, flags_marks flags hv, hl, Octets.ofUInt16_uint16,
          Octets.ofUInt64_uint64, List.cons_append, List.nil_append]
      · simp [hv] at h
    · simp at h
  · rintro ⟨length, spare, rest, hn, hspare, rfl, hp⟩
    obtain ⟨a, b, c, rfl⟩ := List.length_eq_three.1 hspare
    obtain ⟨l₁, l₂, hl, hlength⟩ := exists_lengthField hn
    obtain ⟨s₁, s₂, hs, hsequence⟩ := Octets.exists_ofUInt16 header.sequence
    obtain ⟨f₁, f₂, hf, hlabel⟩ := Octets.exists_ofUInt16 header.flowLabel
    obtain ⟨t₁, t₂, t₃, t₄, t₅, t₆, t₇, t₈, ht, htid⟩ := Octets.exists_ofUInt64 header.tid
    obtain ⟨hversion, hmarks⟩ := marks_flags header.marks
    simp only [front, hl, hs, hf, ht, List.cons_append, List.nil_append, parse, flags, hversion,
      ne_eq, not_true, if_false, hlength, hsequence, hlabel, htid, hmarks]
    rw [hp]
    rfl

end V0Header

/-! ## GTP' -/

namespace PrimeHeader
variable {header : PrimeHeader} {policy : LengthPolicy}

/-- The octets of a header with a given length and given spare octets. -/
def front (header : PrimeHeader) (length : Nat) (spare : Octets) : Octets :=
  header.flags :: header.type :: Octets.ofNat 2 length ++ Octets.ofUInt16 header.sequence ++ spare

/-- How many spare octets a header has. -/
def spares (header : PrimeHeader) : Nat := if header.long then spareSize else 0

theorem size_eq (header : PrimeHeader) : header.size = shortSize + header.spares := by
  rw [size, spares]
  split <;> rfl

theorem length_front {spare : Octets} (h : spare.length = header.spares) (length : Nat) :
    (header.front length spare).length = header.size := by
  simp only [front, List.length_append, List.length_cons, Octets.length_ofNat,
    Octets.length_ofUInt16, size_eq, shortSize, h]

theorem encode_eq_ok {n : Nat} {octets : Octets} :
    header.encode n = .ok octets ↔
      n ≤ maxLength ∧ octets = header.front n (List.replicate header.spares 0xff) := by
  have hs : List.replicate header.spares (0xff : UInt8) =
      if header.long then List.replicate spareSize 0xff else [] := by
    rw [spares]
    split <;> rfl
  simp [encode, front, hs, lengthField_eq_ok, eq_comm (b := octets), and_assoc]

private theorem version_flags : ∀ (version : Fin 8) (long : Bool),
    let flags : UInt8 := (UInt8.ofNat version <<< 5) ||| 0x0e ||| (if long then 1 else 0)
    isPrimeFlags flags = true ∧ Fin.ofNat 8 (flags >>> 5).toNat = version ∧
      (flags &&& 1 != 0) = long := by
  decide

theorem prime_flags (header : PrimeHeader) : isPrimeFlags header.flags = true :=
  (version_flags header.version header.long).1

theorem long_flags (header : PrimeHeader) : (header.flags &&& 1 != 0) = header.long :=
  (version_flags header.version header.long).2.2

private theorem flags_version : ∀ flags : UInt8, isPrimeFlags flags = true →
    (UInt8.ofNat (Fin.ofNat 8 (flags >>> 5).toNat).val <<< 5) ||| 0x0e
      ||| (if flags &&& 1 != 0 then 1 else 0) = flags :=
  forall_octet (by decide +kernel)

private theorem front_of_parse {octets payload : Octets}
    (h : parse policy octets = .ok (header, payload)) :
    ∃ length spare rest, length ≤ maxLength ∧ spare.length = header.spares ∧
      octets = header.front length spare ++ rest ∧
      policy.payload header.size length rest = .ok payload := by
  unfold parse at h
  split at h
  · next flags type l₁ l₂ s₁ s₂ rest =>
    cases hv : isPrimeFlags flags with
    | true =>
      simp only [hv, Bool.not_true, Bool.false_eq_true, if_false, bind_eq_ok, pure_eq,
        Except.ok.injEq, Prod.mk.injEq] at h
      obtain ⟨_, hs, payload, hp, rfl, rfl⟩ := h
      have hl : Octets.ofNat 2 (Octets.toNat [l₁, l₂]) = [l₁, l₂] := Octets.ofNat_toNat rfl
      have hf := flags_version flags hv
      -- The long form has spare octets between the sequence number and the payload.
      cases hlong : flags &&& 1 != 0 with
      | true =>
        simp only [hlong, if_true, ensureSize, size] at hs hp hf
        have hsize : spareSize ≤ rest.length := by
          split at hs
          · cases hs
          · omega
        refine ⟨_, rest.take spareSize, rest.drop spareSize, toNat_two_le l₁ l₂, ?_, ?_, hp⟩
        · rw [List.length_take_of_le hsize]
          rfl
        · simp only [front, PrimeHeader.flags, if_true, hf, hl, Octets.ofUInt16_uint16,
            List.cons_append, List.nil_append, List.take_append_drop]
      | false =>
        simp only [hlong, Bool.false_eq_true, if_false, size] at hp hf
        refine ⟨_, [], rest, toNat_two_le l₁ l₂, rfl, ?_, hp⟩
        simp only [front, PrimeHeader.flags, Bool.false_eq_true, if_false, hf, hl,
          Octets.ofUInt16_uint16, List.cons_append, List.nil_append]
    | false => simp [hv] at h
  · simp at h

private theorem parse_front {length : Nat} {spare rest payload : Octets} (hn : length ≤ maxLength)
    (hspare : spare.length = header.spares)
    (hp : policy.payload header.size length rest = .ok payload) :
    parse policy (header.front length spare ++ rest) = .ok (header, payload) := by
  obtain ⟨l₁, l₂, hl, hlength⟩ := exists_lengthField hn
  obtain ⟨s₁, s₂, hs, hsequence⟩ := Octets.exists_ofUInt16 header.sequence
  obtain ⟨version, long, type, sequence⟩ := header
  obtain ⟨hprime, hversion, hlong⟩ := version_flags version long
  simp only [front, hl, hs, List.cons_append, List.nil_append, parse, flags, hprime, hversion,
    hlong, Bool.not_true, Bool.false_eq_true, if_false, hlength, hsequence]
  -- The spare octets are there and dropped again, or there are none.
  cases long with
  | true =>
    have hspare : spare.length = spareSize := hspare
    simp only [size, if_true, ensureSize, List.length_append, hspare] at hp ⊢
    rw [if_neg (by omega), List.drop_left' hspare, hp]
    rfl
  | false =>
    cases List.length_eq_zero_iff.1 hspare
    simp only [size, Bool.false_eq_true, if_false, ensureSize, List.nil_append] at hp ⊢
    rw [if_neg (by omega), hp]
    rfl

/-- A datagram is read as a header and what the length policy allows of the octets after it, if it
starts with that header, whatever the spare octets are. -/
theorem parse_eq_ok {octets payload : Octets} :
    parse policy octets = .ok (header, payload) ↔
      ∃ length spare rest, length ≤ maxLength ∧ spare.length = header.spares ∧
        octets = header.front length spare ++ rest ∧
        policy.payload header.size length rest = .ok payload := by
  refine ⟨front_of_parse, ?_⟩
  rintro ⟨length, spare, rest, hn, hspare, rfl, hp⟩
  exact parse_front hn hspare hp

end PrimeHeader

end GtpControl
