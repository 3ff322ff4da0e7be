import GtpControl.Proofs.HeaderEdits
import GtpControl.Proofs.LenientReading

/-! # Messages say where they end

The flags and the length field of a datagram say how many octets it has. A reader looks at no octet
after those, and a strict reader refuses a datagram that breaks off before. -/
namespace GtpControl

namespace Version

/-- Whether readers of a version take datagrams with these flags. -/
def accepts (flags : UInt8) : Version → Bool
  | .v0 => flags >>> 5 == 0
  | .v1 => flags >>> 5 == 1
  | .v2 => flags >>> 5 == 2
  | .prime => isPrimeFlags flags

/-- The flags and the two octets of the length field end a datagram after this many octets, which leaves
room for the header that the flags announce. -/
structure Delimits (version : Version) (flags l₁ l₂ : UInt8) (size : Nat) : Prop where
  accepts : version.accepts flags = true
  announced : Header.announced flags version ≤ size
  size : version.uncounted flags + Octets.toNat [l₁, l₂] = size

end Version

namespace LengthPolicy
variable {headerSize declared : Nat} {rest : Octets}

theorem payload_append_of_le (h : declared ≤ rest.length) (policy : LengthPolicy) (headerSize : Nat)
    (more : Octets) :
    policy.payload headerSize declared (rest ++ more) = policy.payload headerSize declared rest := by
  unfold LengthPolicy.payload
  rw [if_pos h, if_pos (by rw [List.length_append]; omega), List.take_append_of_le_length h]

theorem payload_strict_of_lt (h : rest.length < declared) (headerSize : Nat) :
    strict.payload headerSize declared rest =
      .error (.tooShort (headerSize + declared) (headerSize + rest.length)) :=
  if_neg (Nat.not_le.2 h)

end LengthPolicy

namespace Header
variable {version : Version} {flags type l₁ l₂ : UInt8} {head rest : Octets} {size : Nat}

/-! ## The part of a header that the flags announce -/

/-- Readers of datagrams that start with these octets cut the octets from `base` to the end out of the
datagram as the length policy has it, and look at nothing else. -/
def Cuts (version : Version) (front : Octets) (size : Nat) : Prop :=
  ∃ (base : Nat) (block : Octets), base ≤ size ∧ base + block.length = front.length ∧
    ∃ finish : Octets → Coded (Header × Octets), ∀ policy rest,
      parse version policy (front ++ rest) =
        policy.payload base (size - base) (block ++ rest) >>= finish

private theorem cuts_v0 (hh : head.length = 16) (d : Version.Delimits .v0 flags l₁ l₂ size) :
    Cuts .v0 (flags :: type :: l₁ :: l₂ :: head) size := by
  match head, hh with
  | [s₁, s₂, f₁, f₂, number, a, b, c, t₁, t₂, t₃, t₄, t₅, t₆, t₇, t₈], _ =>
    obtain ⟨ha, hannounced, hn⟩ := d
    simp only [Version.accepts, beq_iff_eq] at ha
    simp only [Version.uncounted] at hn
    have hdeclared : size - 20 = Octets.toNat [l₁, l₂] := by omega
    refine ⟨20, [], hannounced, rfl, ?_⟩
    constructor
    intro policy rest
    simp only [List.cons_append, List.nil_append, parse, V0Header.parse, V0Header.size, ha, ne_eq,
      not_true, if_false, hdeclared, bind_assoc]
    rfl

private theorem cuts_v1_optional (hh : head.length = 8) (ho : (flags &&& 7 != 0) = true)
    (d : Version.Delimits .v1 flags l₁ l₂ size) :
    Cuts .v1 (flags :: type :: l₁ :: l₂ :: head) size := by
  match head, hh with
  | [t₁, t₂, t₃, t₄, s₁, s₂, number, next], _ =>
    obtain ⟨ha, hannounced, hn⟩ := d
    simp only [Version.accepts, beq_iff_eq] at ha
    simp only [Version.uncounted] at hn
    rw [announced, ho, if_pos rfl] at hannounced
    have hdeclared : size - 8 = Octets.toNat [l₁, l₂] := by omega
    refine ⟨8, [s₁, s₂, number, next], by omega, rfl, ?_⟩
    constructor
    intro policy rest
    simp only [List.cons_append, List.nil_append, parse, V1Header.parse, V1Header.fixedSize,
      V1Header.optionalSize, V1Header.hasOptional, V1Header.optional_octet, ha, ho, ne_eq, not_true,
      if_false, if_true, ensureSize, List.length_cons, hdeclared]
    rw [if_neg (by omega), if_neg (by omega)]
    simp only [pure_eq, ok_bind, bind_assoc]
    rfl

private theorem cuts_v1_bare (hh : head.length = 4) (ho : (flags &&& 7 != 0) = false)
    (d : Version.Delimits .v1 flags l₁ l₂ size) :
    Cuts .v1 (flags :: type :: l₁ :: l₂ :: head) size := by
  match head, hh with
  | [t₁, t₂, t₃, t₄], _ =>
    obtain ⟨ha, hannounced, hn⟩ := d
    simp only [Version.accepts, beq_iff_eq] at ha
    simp only [Version.uncounted] at hn
    rw [announced, ho, if_neg (by decide)] at hannounced
    have hdeclared : size - 8 = Octets.toNat [l₁, l₂] := by omega
    refine ⟨8, [], hannounced, rfl, ?_⟩
    constructor
    intro policy rest
    simp only [List.cons_append, List.nil_append, parse, V1Header.parse, V1Header.fixedSize,
      V1Header.hasOptional, V1Header.optional_octet, ha, ho, ne_eq, not_true, if_false,
      Bool.false_eq_true, ensureSize, hdeclared]
    rw [if_neg (by omega), if_neg (by omega)]
    simp only [pure_eq, ok_bind, bind_assoc]
    rfl

private theorem cuts_v2_teid (hh : head.length = 8) (ho : (flags &&& 8 != 0) = true)
    (d : Version.Delimits .v2 flags l₁ l₂ size) :
    Cuts .v2 (flags :: type :: l₁ :: l₂ :: head) size := by
  match head, hh with
  | [t₁, t₂, t₃, t₄, s₁, s₂, s₃, spare], _ =>
    obtain ⟨ha, hannounced, hn⟩ := d
    simp only [Version.accepts, beq_iff_eq] at ha
    simp only [Version.uncounted] at hn
    rw [announced, ho, if_pos rfl] at hannounced
    have hdeclared : size - 12 = Octets.toNat [l₁, l₂] - 8 := by omega
    refine ⟨12, [], hannounced, rfl, ?_⟩
    constructor
    intro policy rest
    simp only [List.cons_append, List.nil_append, parse, V2Header.parse, V2Header.countedSize,
      V2Header.fixedSize, ha, ho, ne_eq, not_true, if_false, if_true, hdeclared]
    rw [if_neg (by omega)]
    simp only [pure_eq, bind_assoc]
    rfl

private theorem cuts_v2_bare (hh : head.length = 4) (ho : (flags &&& 8 != 0) = false)
    (d : Version.Delimits .v2 flags l₁ l₂ size) :
    Cuts .v2 (flags :: type :: l₁ :: l₂ :: head) size := by
  match head, hh with
  | [s₁, s₂, s₃, spare], _ =>
    obtain ⟨ha, hannounced, hn⟩ := d
    simp only [Version.accepts, beq_iff_eq] at ha
    simp only [Version.uncounted] at hn
    rw [announced, ho, if_neg (by decide)] at hannounced
    have hdeclared : size - 8 = Octets.toNat [l₁, l₂] - 4 := by omega
    refine ⟨8, [], hannounced, rfl, ?_⟩
    constructor
    intro policy rest
    simp only [List.cons_append, List.nil_append, parse, V2Header.parse, V2Header.countedSize,
      V2Header.fixedSize, ha, ho, ne_eq, not_true, if_false, Bool.false_eq_true, hdeclared]
    rw [if_neg (by omega)]
    simp only [pure_eq, bind_assoc]
    rfl

private theorem cuts_prime_long (hh : head.length = 16) (ho : (flags &&& 1 != 0) = true)
    (d : Version.Delimits .prime flags l₁ l₂ size) :
    Cuts .prime (flags :: type :: l₁ :: l₂ :: head) size := by
  match head, hh with
  | s₁ :: s₂ :: spare, hh =>
    obtain ⟨ha, hannounced, hn⟩ := d
    simp only [Version.accepts] at ha
    rw [announced, ho, if_pos rfl] at hannounced
    rw [Version.uncounted, ho, if_pos rfl] at hn
    have hdeclared : size - 20 = Octets.toNat [l₁, l₂] := by omega
    have hspare : spare.length = 14 := by
      simp only [List.length_cons] at hh
      omega
    refine ⟨20, [], hannounced, by simp only [List.length_cons, List.length_nil, hspare], ?_⟩
    constructor
    intro policy rest
    simp only [List.cons_append, List.nil_append, parse, PrimeHeader.parse, PrimeHeader.size,
      PrimeHeader.shortSize, PrimeHeader.spareSize, ha, ho, Bool.not_true, Bool.false_eq_true,
      if_false, if_true, ensureSize, List.length_append, List.drop_left' hspare, hdeclared]
    rw [if_neg (by omega)]
    simp only [pure_eq, ok_bind, bind_assoc]
    rfl

private theorem cuts_prime_short (hh : head.length = 2) (ho : (flags &&& 1 != 0) = false)
    (d : Version.Delimits .prime flags l₁ l₂ size) :
    Cuts .prime (flags :: type :: l₁ :: l₂ :: head) size := by
  match head, hh with
  | [s₁, s₂], _ =>
    obtain ⟨ha, hannounced, hn⟩ := d
    simp only [Version.accepts] at ha
    rw [announced, ho, if_neg (by decide)] at hannounced
    rw [Version.uncounted, ho, if_neg (by decide)] at hn
    have hdeclared : size - 6 = Octets.toNat [l₁, l₂] := by omega
    refine ⟨6, [], hannounced, rfl, ?_⟩
    constructor
    intro policy rest
    simp only [List.cons_append, List.nil_append, parse, PrimeHeader.parse, PrimeHeader.size,
      PrimeHeader.shortSize, ha, ho, Bool.not_true, Bool.false_eq_true, if_false, ensureSize,
      hdeclared]
    rw [if_neg (by omega)]
    simp only [pure_eq, ok_bind, bind_assoc]
    rfl

private theorem cuts (type : UInt8) (d : version.Delimits flags l₁ l₂ size)
    (hh : head.length + 4 = announced flags version) :
    Cuts version (flags :: type :: l₁ :: l₂ :: head) size := by
  cases version with
  | v0 => exact cuts_v0 (Nat.add_right_cancel hh) d
  | v1 =>
    cases ho : flags &&& 7 != 0 with
    | true =>
      rw [announced, ho, if_pos rfl] at hh
      exact cuts_v1_optional (Nat.add_right_cancel hh) ho d
    | false =>
      rw [announced, ho, if_neg (by decide)] at hh
      exact cuts_v1_bare (Nat.add_right_cancel hh) ho d
  | v2 =>
    cases ho : flags &&& 8 != 0 with
    | true =>
      rw [announced, ho, if_pos rfl] at hh
      exact cuts_v2_teid (Nat.add_right_cancel hh) ho d
    | false =>
      rw [announced, ho, if_neg (by decide)] at hh
      exact cuts_v2_bare (Nat.add_right_cancel hh) ho d
  | prime =>
    cases ho : flags &&& 1 != 0 with
    | true =>
      rw [announced, ho, if_pos rfl] at hh
      exact cuts_prime_long (Nat.add_right_cancel hh) ho d
    | false =>
      rw [announced, ho, if_neg (by decide)] at hh
      exact cuts_prime_short (Nat.add_right_cancel hh) ho d

private theorem parse_short_v1 (d : Version.Delimits .v1 flags l₁ l₂ size)
    (hs : rest.length + 4 < announced flags .v1) (policy : LengthPolicy) :
    ∃ needed, parse .v1 policy (flags :: type :: l₁ :: l₂ :: rest) =
      .error (.tooShort needed (rest.length + 4)) := by
  obtain ⟨ha, hannounced, hn⟩ := d
  simp only [Version.accepts, beq_iff_eq] at ha
  simp only [Version.uncounted] at hn
  rw [parse]
  unfold V1Header.parse
  split
  · next t₁ t₂ t₃ t₄ rest he =>
    cases he
    rw [announced] at hs hannounced
    simp only [List.length_cons] at hs
    -- Four octets can only be missing if they are announced.
    cases ho : flags &&& 7 != 0 with
    | true =>
      rw [ho, if_pos rfl] at hs hannounced
      have hlength : 8 + rest.length = (t₁ :: t₂ :: t₃ :: t₄ :: rest).length + 4 := Nat.add_comm ..
      simp only [V1Header.fixedSize, V1Header.optionalSize, V1Header.hasOptional, V1Header.optional_octet,
        ha, ho, ne_eq, not_true, if_false, if_true, ensureSize]
      rw [if_neg (by omega), if_pos (by omega), hlength]
      exact ⟨_, rfl⟩
    | false =>
      rw [ho, if_neg (by decide)] at hs
      omega
  · exact ⟨_, rfl⟩

private theorem parse_short_v2 (d : Version.Delimits .v2 flags l₁ l₂ size)
    (hs : rest.length + 4 < announced flags .v2) (policy : LengthPolicy) :
    ∃ needed, parse .v2 policy (flags :: type :: l₁ :: l₂ :: rest) =
      .error (.tooShort needed (rest.length + 4)) := by
  obtain ⟨ha, hannounced, hn⟩ := d
  simp only [Version.accepts, beq_iff_eq] at ha
  simp only [Version.uncounted] at hn
  rw [parse]
  unfold V2Header.parse
  split
  · next o₁ o₂ o₃ o₄ rest he =>
    cases he
    rw [announced] at hs hannounced
    simp only [List.length_cons] at hs
    cases ho : flags &&& 8 != 0 with
    | true =>
      rw [ho, if_pos rfl] at hs hannounced
      have hlength : 8 + rest.length = (o₁ :: o₂ :: o₃ :: o₄ :: rest).length + 4 := Nat.add_comm ..
      simp only [V2Header.countedSize, V2Header.fixedSize, ha, ne_eq, not_true, if_false, if_true]
      rw [if_neg (by omega)]
      split
      · cases ‹true = false›
      · simp only [List.length_cons] at hs
        omega
      · rw [hlength]
        exact ⟨_, rfl⟩
    | false =>
      rw [ho, if_neg (by decide)] at hs
      omega
  · exact ⟨_, rfl⟩

private theorem parse_short_prime (d : Version.Delimits .prime flags l₁ l₂ size)
    (hs : rest.length + 4 < announced flags .prime) (policy : LengthPolicy) :
    ∃ needed, parse .prime policy (flags :: type :: l₁ :: l₂ :: rest) =
      .error (.tooShort needed (rest.length + 4)) := by
  have ha := d.accepts
  simp only [Version.accepts] at ha
  rw [parse]
  unfold PrimeHeader.parse
  split
  · next s₁ s₂ rest he =>
    cases he
    rw [announced] at hs
    simp only [List.length_cons] at hs
    cases ho : flags &&& 1 != 0 with
    | true =>
      rw [ho, if_pos rfl] at hs
      have hlength : 6 + rest.length = (s₁ :: s₂ :: rest).length + 4 := Nat.add_comm ..
      simp only [PrimeHeader.size, PrimeHeader.shortSize, PrimeHeader.spareSize, ha,
        Bool.not_true, Bool.false_eq_true, if_false, if_true, ensureSize]
      rw [if_pos (by omega), hlength]
      exact ⟨_, rfl⟩
    | false =>
      rw [ho, if_neg (by decide)] at hs
      omega
  · exact ⟨_, rfl⟩

/-- Without all the octets that the flags announce there is no header. -/
private theorem parse_of_lt_announced (d : version.Delimits flags l₁ l₂ size)
    (hs : rest.length + 4 < announced flags version) (policy : LengthPolicy) :
    ∃ needed, parse version policy (flags :: type :: l₁ :: l₂ :: rest) =
      .error (.tooShort needed (rest.length + 4)) := by
  cases version with
  | v0 =>
    rw [parse]
    unfold V0Header.parse
    split
    · next he =>
      cases he
      simp only [announced, List.length_cons] at hs
      omega
    · exact ⟨_, rfl⟩
  | v1 => exact parse_short_v1 d hs policy
  | v2 => exact parse_short_v2 d hs policy
  | prime => exact parse_short_prime d hs policy

/-! ## Before the end and after it -/

private theorem four_le_announced (flags : UInt8) (version : Version) :
    4 ≤ announced flags version := by
  unfold announced
  split <;> try split
  all_goals decide

/-- A datagram is read as what is cut out of it once the announced octets are there. -/
private theorem exists_cut (type : UInt8) (d : version.Delimits flags l₁ l₂ size)
    (hs : announced flags version ≤ rest.length + 4) :
    ∃ (base : Nat) (block : Octets) (finish : Octets → Coded (Header × Octets)),
      base ≤ size ∧ base + block.length = rest.length + 4 ∧ ∀ policy more,
        parse version policy (flags :: type :: l₁ :: l₂ :: (rest ++ more)) =
          policy.payload base (size - base) (block ++ more) >>= finish := by
  have hfour := four_le_announced flags version
  have hhead : (rest.take (announced flags version - 4)).length + 4 = announced flags version := by
    rw [List.length_take_of_le (by omega)]
    omega
  obtain ⟨base, block, hbase, hfront, finish, h⟩ := cuts type d hhead
  have hrest := List.take_append_drop (announced flags version - 4) rest
  refine ⟨base, block ++ rest.drop (announced flags version - 4), finish, hbase, ?_,
    fun policy more => ?_⟩
  · have hlength := congrArg List.length hrest
    simp only [List.length_append, List.length_cons] at hlength hfront ⊢
    omega
  · have hp := h policy (rest.drop (announced flags version - 4) ++ more)
    rw [List.cons_append, List.cons_append, List.cons_append, List.cons_append,
      ← List.append_assoc, hrest] at hp
    rw [hp, List.append_assoc]

/-- A reader looks at nothing after the end of a datagram. -/
theorem parse_append (d : version.Delimits flags l₁ l₂ size) (hs : size ≤ rest.length + 4)
    (policy : LengthPolicy) (more : Octets) :
    parse version policy (flags :: type :: l₁ :: l₂ :: (rest ++ more)) =
      parse version policy (flags :: type :: l₁ :: l₂ :: rest) := by
  obtain ⟨base, block, finish, hbase, hfront, h⟩ :=
    exists_cut type d (d.announced.trans hs)
  have hp := h policy []
  rw [List.append_nil, List.append_nil] at hp
  rw [h, hp, LengthPolicy.payload_append_of_le (by omega)]

/-- A strict reader refuses a datagram that breaks off before its end. -/
private theorem parse_of_lt (type : UInt8) (d : version.Delimits flags l₁ l₂ size)
    (hs : rest.length + 4 < size) :
    ∃ needed, parse version .strict (flags :: type :: l₁ :: l₂ :: rest) =
      .error (.tooShort needed (rest.length + 4)) := by
  by_cases hannounced : rest.length + 4 < announced flags version
  · exact parse_of_lt_announced d hannounced .strict
  · obtain ⟨base, block, finish, hbase, hfront, h⟩ :=
      exists_cut type d (Nat.le_of_not_lt hannounced)
    have hp := h .strict []
    rw [List.append_nil, List.append_nil, LengthPolicy.payload_strict_of_lt (by omega), hfront,
      error_bind] at hp
    exact ⟨_, hp⟩

/-- Four octets are needed to see the end. -/
private theorem parse_of_lt_four {octets : Octets} (h : octets.length < 4) (version : Version)
    (policy : LengthPolicy) :
    ∃ needed, parse version policy octets = .error (.tooShort needed octets.length) := by
  match octets, h with
  | [], _ | [_], _ | [_, _], _ | [_, _, _], _ => cases version <;> exact ⟨_, rfl⟩

/-- A strict reader refuses what is left of a datagram that is cut off anywhere before its end. -/
theorem parse_take (d : version.Delimits flags l₁ l₂ size) (hs : size ≤ rest.length + 4) {k : Nat}
    (hk : k < size) :
    ∃ needed, parse version .strict ((flags :: type :: l₁ :: l₂ :: rest).take k) =
      .error (.tooShort needed k) := by
  match k with
  | 0 | 1 | 2 | 3 => exact parse_of_lt_four (by simp) version .strict
  | k + 4 =>
    have htake : (rest.take k).length = k := List.length_take_of_le (by omega)
    have hshort : (rest.take k).length + 4 < size := by rwa [htake]
    obtain ⟨needed, h⟩ := parse_of_lt type d hshort
    rw [htake] at h
    exact ⟨needed, h⟩

/-! ## What is written -/

section
variable {header : Header} {n : Nat} {front : Octets}

theorem accepts_flags (header : Header) : header.version.accepts header.flags = true := by
  cases header with
  | v0 header => exact beq_iff_eq.2 header.version_flags
  | v1 header => exact beq_iff_eq.2 header.version_flags
  | v2 header => exact beq_iff_eq.2 header.version_flags
  | prime header => exact header.prime_flags

theorem announced_le_size (header : Header) :
    announced header.flags header.version ≤ header.size := by
  cases header with
  | v0 header => exact Nat.le_refl 20
  | v1 header =>
    simp only [announced, version, Header.flags, header.optional_flags, size, V1Header.size,
      V1Header.fixedSize, V1Header.optionalSize]
    split
    · exact Nat.le_add_right ..
    · exact Nat.le_refl 8
  | v2 header =>
    simp only [announced, version, Header.flags, header.teid_flags, size, V2Header.size]
    cases header.teid <;> exact Nat.le_refl _
  | prime header =>
    simp only [announced, version, Header.flags, header.long_flags]
    exact Nat.le_refl _

/-- The length field of a header counts what it counts of the header, and the payload. -/
theorem exists_of_encode (h : header.encode n = .ok front) :
    header.counted + n ≤ maxLength ∧ ∃ rest, front =
      header.flags :: header.type :: Octets.ofNat 2 (header.counted + n) ++ rest := by
  cases header with
  | v0 header =>
    obtain ⟨hn, rfl⟩ := V0Header.encode_eq_ok.1 h
    simp only [counted, Nat.zero_add]
    exact ⟨hn, _, rfl⟩
  | v1 header =>
    obtain ⟨hn, rfl⟩ := V1Header.encode_eq_ok.1 h
    exact ⟨hn, _, List.append_assoc ..⟩
  | v2 header =>
    obtain ⟨hn, rfl⟩ := V2Header.encode_eq_ok.1 h
    exact ⟨hn, _, rfl⟩
  | prime header =>
    obtain ⟨hn, rfl⟩ := PrimeHeader.encode_eq_ok.1 h
    simp only [counted, Nat.zero_add]
    exact ⟨hn, _, rfl⟩

/-- A header that is written ends the datagram after the payload. -/
theorem delimits_of_encode (h : header.encode n = .ok front) :
    ∃ l₁ l₂ rest, front = header.flags :: header.type :: l₁ :: l₂ :: rest ∧
      header.version.Delimits header.flags l₁ l₂ (header.size + n) := by
  obtain ⟨hn, rest, rfl⟩ := exists_of_encode h
  obtain ⟨l₁, l₂, hl, hlength⟩ := exists_lengthField hn
  refine ⟨l₁, l₂, rest, by rw [hl]; rfl, header.accepts_flags, ?_, ?_⟩
  · exact header.announced_le_size.trans (Nat.le_add_right ..)
  · rw [hlength, size_eq_uncounted, Nat.add_assoc]

end

end Header

namespace Message
variable {message : Message} {octets : Octets}

theorem parse_of_header_eq_error {version : Version} {policy : LengthPolicy} {e : CodecError}
    (h : Header.parse version policy octets = .error e) : parse version policy octets = .error e := by
  rw [parse, parseParts, h, error_bind, error_bind]

/-- A reader of messages sees only what the reader of headers leaves. -/
theorem parse_congr_header {version : Version} {policy : LengthPolicy} {octets' : Octets}
    (h : Header.parse version policy octets = Header.parse version policy octets') :
    parse version policy octets = parse version policy octets' := by
  rw [parse, parse, parseParts, parseParts, h]

/-- A message that is written is refused by a strict reader when it is cut off anywhere, and what goes
after it changes nothing for any reader, even where the message is not read as what it was. -/
theorem parse_encode_delimited (h : message.encode = .ok octets) :
    (∀ k < octets.length, ∃ needed,
      parse message.version .strict (octets.take k) = .error (.tooShort needed k)) ∧
    ∀ policy more,
      parse message.version policy (octets ++ more) = parse message.version policy octets := by
  have hlength := length_encode h
  obtain ⟨-, front, hf, rfl⟩ := encode_eq_ok.1 h
  obtain ⟨l₁, l₂, rest, rfl, d⟩ := Header.delimits_of_encode hf
  rw [size] at hlength
  simp only [List.cons_append] at hlength ⊢
  refine ⟨fun k hk => ?_, fun policy more => ?_⟩
  · obtain ⟨needed, hp⟩ := Header.parse_take d (Nat.le_of_eq hlength.symm) (hlength ▸ hk)
    exact ⟨needed, parse_of_header_eq_error hp⟩
  · exact parse_congr_header (Header.parse_append d (Nat.le_of_eq hlength.symm) policy more)

/-- A create request whose extension header has the type that ends the chain. -/
private def unreadable : Message where
  header := .v1 {
    extended := true, type := 16, teid := 9, sequence := 7, extensions := [⟨0, [1, 2]⟩] }
  kind := .generic
  fields := []
  additional := [⟨14, 0, [5], []⟩]

private def unreadableOctets : Octets :=
  [0x36, 16, 0, 10, 0, 0, 0, 9, 0, 7, 0, 0, 1, 1, 2, 0, 14, 5]

/-- The rest of the chain is read as elements, of which the last is too short, also when more octets
follow. -/
theorem parse_encode_delimited_unreadable :
    unreadable.encode = .ok unreadableOctets ∧
    (∃ needed, parse .v1 .strict (unreadableOctets.take 17) = .error (.tooShort needed 17)) ∧
    parse .v1 .lenient (unreadableOctets ++ [0, 0, 0, 0, 0, 0]) = .error (.tooShort 9 4) := by
  have h : unreadable.encode = .ok unreadableOctets := by decide +kernel
  obtain ⟨hcut, happend⟩ := parse_encode_delimited h
  refine ⟨h, hcut 17 (by decide), (happend .lenient _).trans ?_⟩
  decide +kernel

end Message
end GtpControl
