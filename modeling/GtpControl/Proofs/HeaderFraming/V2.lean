import GtpControl.Header.V2
import GtpControl.Proofs.HeaderFraming.Basic

/-! # Framing of headers of GTPv2-C -/
namespace GtpControl

namespace V2Header
variable {header : V2Header} {policy : LengthPolicy}

/-- Octets of the header that its length field counts. -/
def counted (header : V2Header) : Nat := countedSize header.teid.isSome

/-- The octets of a header with a given length. -/
def front (header : V2Header) (length : Nat) : Octets :=
  header.flags :: header.type :: Octets.ofNat 2 length
    ++ (header.teid.map Octets.ofUInt32).getD [] ++ Octets.ofNat 3 header.sequence ++ [header.spare]

@[simp] theorem length_front (header : V2Header) (length : Nat) :
    (header.front length).length = header.size := by
  rw [front, size]
  cases header.teid <;> simp [fixedSize, countedSize]

theorem encode_eq_ok {n : Nat} {octets : Octets} :
    header.encode n = .ok octets ↔
      header.counted + n ≤ maxLength ∧ octets = header.front (header.counted + n) := by
  simp [encode, front, size, counted, lengthField_eq_ok, eq_comm (b := octets), and_assoc]

private theorem marks_flags : ∀ (piggybacking withTeid prioritised : Bool) (spare : Fin 4),
    let flags : UInt8 := 0x40 ||| (if piggybacking then 0x10 else 0) ||| (if withTeid then 8 else 0)
      ||| (if prioritised then 4 else 0) ||| UInt8.ofNat spare
    flags >>> 5 = 2 ∧ (flags &&& 8 != 0) = withTeid ∧ (flags &&& 0x10 != 0) = piggybacking ∧
      (flags &&& 4 != 0) = prioritised ∧ Fin.ofNat 4 flags.toNat = spare := by
  decide

theorem teid_flags (header : V2Header) : (header.flags &&& 8 != 0) = header.teid.isSome :=
  (marks_flags header.piggybacking header.teid.isSome header.prioritised header.spareMarks).2.1

private theorem flags_marks : ∀ flags : UInt8, flags >>> 5 = 2 →
    0x40 ||| (if flags &&& 0x10 != 0 then 0x10 else 0) ||| (if flags &&& 8 != 0 then 8 else 0)
      ||| (if flags &&& 4 != 0 then 4 else 0) ||| UInt8.ofNat (Fin.ofNat 4 flags.toNat).val =
        flags :=
  forall_octet (by decide +kernel)

private theorem ofNat_sequence (s₁ s₂ s₃ : UInt8) :
    Octets.ofNat 3 (Fin.ofNat 0x1000000 (Octets.toNat [s₁, s₂, s₃])).val = [s₁, s₂, s₃] := by
  have hlt : Octets.toNat [s₁, s₂, s₃] < 256 ^ 3 := Octets.toNat_lt [s₁, s₂, s₃]
  have hn : Octets.toNat [s₁, s₂, s₃] % 0x1000000 = Octets.toNat [s₁, s₂, s₃] :=
    Nat.mod_eq_of_lt hlt
  rw [Fin.val_ofNat, hn]
  exact Octets.ofNat_toNat rfl

private theorem front_of_parse {octets payload : Octets}
    (h : parse policy octets = .ok (header, payload)) :
    ∃ length rest, length ≤ maxLength ∧ octets = header.front length ++ rest ∧
      header.counted ≤ length ∧
      policy.payload header.size (length - header.counted) rest = .ok payload := by
  unfold parse at h
  split at h
  · next flags type l₁ l₂ o₁ o₂ o₃ o₄ rest =>
    by_cases hv : flags >>> 5 = 2
    · by_cases hlength : Octets.toNat [l₁, l₂] < countedSize (flags &&& 8 != 0)
      · simp [hv, hlength] at h
      · have hf := flags_marks flags hv
        have hl : Octets.ofNat 2 (Octets.toNat [l₁, l₂]) = [l₁, l₂] := Octets.ofNat_toNat rfl
        simp only [hv, hlength, ne_eq, not_true, if_false] at h
        split at h
        · next hteid =>
          simp only [bind_eq_ok, pure_eq, Except.ok.injEq, Prod.mk.injEq] at h
          obtain ⟨payload, hp, rfl, rfl⟩ := h
          rw [hteid] at hlength hp
          refine ⟨_, _, toNat_two_le l₁ l₂, ?_, Nat.le_of_not_lt hlength, hp⟩
          simp only [hteid, Bool.false_eq_true, if_false] at hf
          simp only [front, V2Header.flags, Option.isSome_none, Bool.false_eq_true, if_false, hf,
            hl, Option.map_none, Option.getD_none, ofNat_sequence, List.cons_append,
            List.nil_append]
        · next s₁ s₂ s₃ spare rest hteid =>
          simp only [bind_eq_ok, pure_eq, Except.ok.injEq, Prod.mk.injEq] at h
          obtain ⟨payload, hp, rfl, rfl⟩ := h
          rw [hteid] at hlength hp
          refine ⟨_, _, toNat_two_le l₁ l₂, ?_, Nat.le_of_not_lt hlength, hp⟩
          simp only [hteid, if_true] at hf
          simp only [front, V2Header.flags, Option.isSome_some, if_true, hf, hl, Option.map_some,
            Option.getD_some, Octets.ofUInt32_uint32, ofNat_sequence, List.cons_append,
            List.nil_append]
        · simp at h
    · simp [hv] at h
  · simp at h

private theorem parse_front {length : Nat} {rest payload : Octets} (hn : length ≤ maxLength)
    (hc : header.counted ≤ length)
    (hp : policy.payload header.size (length - header.counted) rest = .ok payload) :
    parse policy (header.front length ++ rest) = .ok (header, payload) := by
  obtain ⟨l₁, l₂, hl, hlength⟩ := exists_lengthField hn
  obtain ⟨s₁, s₂, s₃, hs, hsequence⟩ := Octets.exists_ofNat_three header.sequence.isLt
  obtain ⟨piggybacking, prioritised, spareMarks, type, teid, sequence, spare⟩ := header
  obtain ⟨hversion, hteid, hpiggy, hprior, hspare⟩ :=
    marks_flags piggybacking teid.isSome prioritised spareMarks
  have hseq : Fin.ofNat 0x1000000 sequence.val = sequence := Fin.ofNat_val_eq_self sequence
  -- The end point number, if there is one, moves the rest of the header.
  cases teid with
  | none =>
    simp only [counted, size, Option.isSome_none] at hc hp hteid hpiggy hprior hspare hversion
    simp only [front, hl, hs, Option.isSome_none, Option.map_none, Option.getD_none,
      List.cons_append, List.nil_append, parse, flags, hversion, hteid, hpiggy, hprior, hspare,
      ne_eq, not_true, if_false, hlength, hsequence, hseq]
    rw [if_neg (Nat.not_lt.2 hc), hp]
    rfl
  | some teid =>
    obtain ⟨t₁, t₂, t₃, t₄, ht, htid⟩ := Octets.exists_ofUInt32 teid
    simp only [counted, size, Option.isSome_some] at hc hp hteid hpiggy hprior hspare hversion
    simp only [front, hl, hs, ht, Option.isSome_some, Option.map_some, Option.getD_some,
      List.cons_append, List.nil_append, parse, flags, hversion, hteid, hpiggy, hprior, hspare,
      ne_eq, not_true, if_false, hlength, hsequence, hseq, htid]
    rw [if_neg (Nat.not_lt.2 hc), hp]
    rfl

/-- A datagram is read as a header and what the length policy allows of the octets after it, if it
starts with that header and the length covers the counted part. -/
theorem parse_eq_ok {octets payload : Octets} :
    parse policy octets = .ok (header, payload) ↔
      ∃ length rest, length ≤ maxLength ∧ octets = header.front length ++ rest ∧
        header.counted ≤ length ∧
        policy.payload header.size (length - header.counted) rest = .ok payload := by
  refine ⟨front_of_parse, ?_⟩
  rintro ⟨length, rest, hn, rfl, hc, hp⟩
  exact parse_front hn hc hp

theorem parse_encode {payload octets : Octets} (h : header.encode payload.length = .ok octets)
    (policy : LengthPolicy) (rest : Octets) :
    parse policy (octets ++ (payload ++ rest)) = .ok (header, payload) := by
  obtain ⟨hn, rfl⟩ := encode_eq_ok.1 h
  refine parse_eq_ok.2 ⟨_, payload ++ rest, hn, rfl, Nat.le_add_right .., ?_⟩
  exact LengthPolicy.payload_append (Nat.add_sub_cancel_left ..).symm ..

theorem unpacked_of_parse {octets payload : Octets}
    (h : parse policy octets = .ok (header, payload)) :
    Unpacked octets payload header.flags header.size header.counted := by
  obtain ⟨length, rest, hn, rfl, hc, hp⟩ := parse_eq_ok.1 h
  obtain ⟨hd, hr⟩ := LengthPolicy.length_payload hp
  refine ⟨rfl, ?_, by omega⟩
  rw [List.length_append, length_front]
  omega

/-! ### Datagrams that are cut off -/

theorem version_flags (header : V2Header) : header.flags >>> 5 = 2 :=
  (marks_flags header.piggybacking header.teid.isSome header.prioritised header.spareMarks).1

/-- What is read strictly does not depend on what goes after it. -/
theorem parse_strict_append {octets payload : Octets}
    (h : parse .strict octets = .ok (header, payload)) (more : Octets) :
    parse .strict (octets ++ more) = .ok (header, payload) := by
  obtain ⟨length, rest, hn, rfl, hc, hp⟩ := parse_eq_ok.1 h
  rw [List.append_assoc]
  exact parse_eq_ok.2 ⟨length, rest ++ more, hn, rfl, hc, LengthPolicy.payload_strict_append hp more⟩

/-- The beginning of a datagram has the header that the whole datagram has. -/
theorem header_of_parse_take {header' : V2Header} {policy' : LengthPolicy}
    {octets payload payload' : Octets} {n : Nat} (h : parse policy octets = .ok (header, payload))
    (h' : parse policy' (octets.take n) = .ok (header', payload')) : header' = header := by
  obtain ⟨length, rest, hn, ho, hc, -⟩ := parse_eq_ok.1 h
  obtain ⟨length', rest', hn', ho', hc', -⟩ := parse_eq_ok.1 h'
  have hcut := List.take_append_drop n octets
  rw [ho', List.append_assoc] at hcut
  -- A lenient reader does not look at the end, and so finds both headers in the whole datagram.
  obtain ⟨found, hfound⟩ := LengthPolicy.exists_lenient header.size (length - header.counted) rest
  obtain ⟨found', hfound'⟩ := LengthPolicy.exists_lenient header'.size (length' - header'.counted)
    (rest' ++ octets.drop n)
  have hp := parse_eq_ok.2 ⟨length, rest, hn, ho, hc, hfound⟩
  have hp' := parse_eq_ok.2 ⟨length', _, hn', hcut.symm, hc', hfound'⟩
  exact (Prod.mk.inj (Except.ok.inj (hp'.symm.trans hp))).1

/-- A datagram of this version can only be too short. -/
theorem error_of_parse {octets : Octets} {e : CodecError} (h : parse policy octets = .error e)
    (hv : ∀ flags ∈ octets.head?, flags >>> 5 = 2) :
    ∃ needed available, e = .tooShort needed available := by
  unfold parse at h
  split at h
  · next flags type l₁ l₂ o₁ o₂ o₃ o₄ rest =>
    have hv : flags >>> 5 = 2 := hv flags rfl
    simp only [hv, ne_eq, not_true, if_false] at h
    split at h
    · cases h
      exact ⟨_, _, rfl⟩
    · split at h
      · rcases bind_eq_error.1 h with hp | ⟨payload, _, h⟩
        · exact LengthPolicy.error_of_payload hp
        · cases h
      · rcases bind_eq_error.1 h with hp | ⟨payload, _, h⟩
        · exact LengthPolicy.error_of_payload hp
        · cases h
      · cases h
        exact ⟨_, _, rfl⟩
  · cases h
    exact ⟨_, _, rfl⟩

end V2Header

end GtpControl
