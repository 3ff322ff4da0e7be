import GtpControl.Header
import GtpControl.Proofs.HeaderFraming.V1
import GtpControl.Proofs.Positions.Basic

/-! # Headers, read by position -/
namespace GtpControl
namespace Reached

/-! ## Where the payload ends -/

/-- The position after the payload of a datagram, of which at least `start` octets have to be there. -/
def payloadEnd (policy : LengthPolicy) (start declaredEnd available : Nat) : Coded Nat := do
  ensureSize available start
  if declaredEnd ≤ available then pure declaredEnd
  else
    match policy with
    | .strict => throw (.tooShort declaredEnd available)
    | .lenient => pure available

/-! ## GTPv0 -/

def headerV0 (policy : LengthPolicy) (data : Octets) : Reached (V0Header × Octets) := do
  answer (ensureSize data.length V0Header.size)
  let flags ← octet data 0
  if flags >>> 5 ≠ 0 then refuse (.unsupportedVersion (flags >>> 5))
  let length := Octets.toNat [← octet data 2, ← octet data 3]
  let stop ← answer (payloadEnd policy V0Header.size (V0Header.size + length) data.length)
  let tid ← sized 8 (← slice data 12 V0Header.size)
  let header : V0Header := {
    marks := ⟨flags.toNat % 32, Nat.mod_lt _ (by decide)⟩
    type := ← octet data 1
    sequence := Octets.uint16 [← octet data 4, ← octet data 5]
    flowLabel := Octets.uint16 [← octet data 6, ← octet data 7]
    packetNumber := ← octet data 8
    tid := Octets.uint64 tid }
  return (header, ← slice data V0Header.size stop)

/-! ## GTPv1-C -/

/-- The chain of extension headers before `stop`, and the position after it. -/
def chain (data : Octets) (stop offset : Nat) (next : UInt8) :
    Reached (List ExtensionHeader × Nat) :=
  if next = 0 then pure ([], offset)
  else if stop < offset + 1 then refuse (.tooShort (offset + 1) stop)
  else do
    let units ← octet data offset
    if hunits : units = 0 then refuse (.malformed .emptyExtension)
    else if hstop : stop < offset + 4 * units.toNat then
      refuse (.tooShort (offset + 4 * units.toNat) stop)
    else
      have : stop - (offset + 4 * units.toNat) < stop - offset := by
        have hu : units.toNat ≠ 0 := fun hz => hunits (UInt8.toNat_inj.1 hz)
        omega
      let last ← minus (offset + 4 * units.toNat) 1
      let content ← slice data (offset + 1) last
      let following ← octet data last
      let (extensions, after) ← chain data stop (offset + 4 * units.toNat) following
      return (⟨next, content⟩ :: extensions, after)
termination_by stop - offset

/-- The optional block, the extension headers and the payload, which ends before `stop`. -/
def optionalV1 (data : Octets) (stop : Nat) (header : V1Header) : Reached (V1Header × Octets) := do
  let sequence := Octets.uint16 [← octet data 8, ← octet data 9]
  let packetNumber ← octet data 10
  let next ← (if header.extended then octet data 11 else pure 0 : Reached UInt8)
  let (extensions, after) ← chain data stop (V1Header.fixedSize + V1Header.optionalSize) next
  return ({ header with sequence, packetNumber, extensions }, ← slice data after stop)

def headerV1 (policy : LengthPolicy) (data : Octets) : Reached (V1Header × Octets) := do
  answer (ensureSize data.length V1Header.fixedSize)
  let flags ← octet data 0
  if flags >>> 5 ≠ 1 then refuse (.unsupportedVersion (flags >>> 5))
  let type ← octet data 1
  let length := Octets.toNat [← octet data 2, ← octet data 3]
  let teid ← uint32At data 4
  let mandatory := if flags &&& 7 != 0 then V1Header.optionalSize else 0
  if length < mandatory then
    refuse (.tooShort (V1Header.fixedSize + mandatory) (V1Header.fixedSize + length))
  let stop ← answer (payloadEnd policy (V1Header.fixedSize + mandatory)
    (V1Header.fixedSize + length) data.length)
  let header : V1Header := {
    protocolType := flags &&& 0x10 != 0
    spareMark := flags &&& 8 != 0
    extended := flags &&& 4 != 0
    sequenced := flags &&& 2 != 0
    numbered := flags &&& 1 != 0
    type
    teid
    sequence := 0 }
  if 0 < mandatory then optionalV1 data stop header
  else return (header, ← slice data V1Header.fixedSize stop)

/-! ## GTPv2-C -/

def headerV2 (policy : LengthPolicy) (data : Octets) : Reached (V2Header × Octets) := do
  answer (ensureSize data.length (V2Header.fixedSize + V2Header.countedSize false))
  let flags ← octet data 0
  if flags >>> 5 ≠ 2 then refuse (.unsupportedVersion (flags >>> 5))
  let type ← octet data 1
  let length := Octets.toNat [← octet data 2, ← octet data 3]
  let withTeid := flags &&& 8 != 0
  let start := V2Header.fixedSize + V2Header.countedSize withTeid
  if length < V2Header.countedSize withTeid then
    refuse (.tooShort start (V2Header.fixedSize + length))
  let stop ← answer (payloadEnd policy start (V2Header.fixedSize + length) data.length)
  let (teid, offset) ← (if withTeid then return (some (← uint32At data 4), 8)
    else return (none, 4) : Reached (Option UInt32 × Nat))
  let header : V2Header := {
    piggybacking := flags &&& 0x10 != 0
    prioritised := flags &&& 4 != 0
    spareMarks := ⟨flags.toNat % 4, Nat.mod_lt _ (by decide)⟩
    type
    teid
    sequence := ⟨Octets.toNat [← octet data offset, ← octet data (offset + 1),
      ← octet data (offset + 2)] % 0x1000000, Nat.mod_lt _ (by decide)⟩
    spare := ← octet data (offset + 3) }
  return (header, ← slice data start stop)

/-! ## GTP' -/

def headerPrime (policy : LengthPolicy) (data : Octets) : Reached (PrimeHeader × Octets) := do
  answer (ensureSize data.length PrimeHeader.shortSize)
  let flags ← octet data 0
  if !isPrimeFlags flags then refuse (.malformed (.primeFlags flags))
  let size := if flags &&& 1 != 0 then PrimeHeader.shortSize + PrimeHeader.spareSize
    else PrimeHeader.shortSize
  answer (ensureSize data.length size)
  let length := Octets.toNat [← octet data 2, ← octet data 3]
  let stop ← answer (payloadEnd policy size (size + length) data.length)
  let header : PrimeHeader := {
    version := ⟨(flags >>> 5).toNat % 8, Nat.mod_lt _ (by decide)⟩
    long := flags &&& 1 != 0
    type := ← octet data 1
    sequence := Octets.uint16 [← octet data 4, ← octet data 5] }
  return (header, ← slice data size stop)

/-! ## Any version -/

/-- The version that the first octet names. -/
def detect (data : Octets) : Reached Version := do
  answer (ensureSize data.length 1)
  answer (Version.ofFlags (← octet data 0))

def header (version : Version) (policy : LengthPolicy) (data : Octets) :
    Reached (Header × Octets) :=
  match version with
  | .v0 => do let (h, payload) ← headerV0 policy data; return (.v0 h, payload)
  | .v1 => do let (h, payload) ← headerV1 policy data; return (.v1 h, payload)
  | .v2 => do let (h, payload) ← headerV2 policy data; return (.v2 h, payload)
  | .prime => do let (h, payload) ← headerPrime policy data; return (.prime h, payload)

/-! ## They give the same answers -/

section
variable {data : Octets}

/-- The payload goes from the base of what is counted to where the payload ends. -/
theorem payloadEnd_cases (policy : LengthPolicy) {base start : Nat} (declared : Nat)
    (hs : start ≤ data.length) (hb : base ≤ start) (hd : start ≤ base + declared) :
    (∃ stop, payloadEnd policy start (base + declared) data.length = .ok stop ∧ start ≤ stop ∧
      stop ≤ data.length ∧
      policy.payload base declared (data.drop base) = .ok ((data.take stop).drop base)) ∨
    ∃ e, payloadEnd policy start (base + declared) data.length = .error e ∧
      policy.payload base declared (data.drop base) = .error e := by
  have hlength : (data.drop base).length = data.length - base := List.length_drop
  unfold payloadEnd LengthPolicy.payload
  rw [ensureSize, if_neg (by omega), hlength]
  by_cases hle : base + declared ≤ data.length
  · refine .inl ⟨base + declared, ?_, hd, hle, ?_⟩
    · rw [if_pos hle]
      rfl
    · rw [if_pos (by omega), List.take_drop]
      rfl
  · rw [if_neg hle, if_neg (by omega)]
    cases policy with
    | strict =>
      refine .inr ⟨_, rfl, ?_⟩
      rw [Nat.add_sub_cancel' (by omega)]
      rfl
    | lenient =>
      refine .inl ⟨data.length, rfl, hs, Nat.le_refl _, ?_⟩
      rw [List.take_length]
      rfl

/-- What goes on with the position gives what goes on with the octets before it. -/
theorem payloadEnd_bind {α : Type} (policy : LengthPolicy) (data : Octets) {base start : Nat}
    (declared : Nat) {reach : Nat → Reached α} {read : Octets → Coded α} (hb : base ≤ start)
    (hd : start ≤ base + declared) (h : ∀ stop, start ≤ stop → stop ≤ data.length →
      reach stop = answer (read ((data.take stop).drop base))) :
    (do reach (← answer (payloadEnd policy start (base + declared) data.length))) =
      answer (do
        ensureSize data.length start
        read (← policy.payload base declared (data.drop base))) := by
  by_cases hs : data.length < start
  · unfold payloadEnd
    rw [ensureSize, if_pos hs]
    rfl
  · obtain ⟨stop, hstop, hle, hle', hp⟩ | ⟨e, hstop, hp⟩ :=
      payloadEnd_cases policy declared (Nat.le_of_not_lt hs) hb hd
    · rw [hstop, hp, ensureSize, if_neg hs]
      exact h stop hle hle'
    · rw [hstop, hp, ensureSize, if_neg hs]
      rfl

/-- The payload that starts where the counting starts. -/
theorem payloadEnd_slice {α : Type} (policy : LengthPolicy) {start : Nat}
    (declared : Nat) (hs : start ≤ data.length) (f : Octets → α) :
    (do
      let stop ← answer (payloadEnd policy start (start + declared) data.length)
      let payload ← slice data start stop
      .ok (f payload)) =
      answer (do
        let payload ← policy.payload start declared (data.drop start)
        .ok (f payload)) := by
  calc
    _ = answer (do
          ensureSize data.length start
          let payload ← policy.payload start declared (data.drop start)
          .ok (f payload)) :=
      payloadEnd_bind policy data declared (Nat.le_refl start) (Nat.le_add_right ..)
        fun stop hle hle' => by
          rw [slice_eq hle hle']
          rfl
    _ = _ := by
      rw [ensureSize, if_neg (Nat.not_lt.2 hs)]
      rfl

private theorem headerV0_front (policy : LengthPolicy) {front : Octets}
    (hf : front.length = V0Header.size) (rest : Octets) :
    headerV0 policy (front ++ rest) = answer (V0Header.parse policy (front ++ rest)) := by
  match front, hf with
  | [flags, type, l₁, l₂, s₁, s₂, f₁, f₂, number, a, b, c, t₁, t₂, t₃, t₄, t₅, t₆, t₇, t₈], hf =>
    have hlength := length_front hf rest
    rw [headerV0, ensured hlength]
    simp only [List.cons_append, List.nil_append, pure_eq, ok_bind, octet_cons_zero,
      octet_cons_succ, V0Header.parse] at hlength ⊢
    split
    · rfl
    · simp only [slice_eq (by decide : 12 ≤ V0Header.size) hlength, ok_bind]
      exact payloadEnd_slice policy _ hlength _

theorem headerV0_eq (policy : LengthPolicy) (data : Octets) :
    headerV0 policy data = answer (V0Header.parse policy data) := by
  by_cases hshort : data.length < V0Header.size
  · have hp : V0Header.parse policy data = .error (.tooShort V0Header.size data.length) := by
      unfold V0Header.parse
      split
      · simp only [List.length_cons, V0Header.size] at hshort
        omega
      · rfl
    rw [hp, headerV0, ensureSize, if_pos hshort]
    rfl
  · obtain ⟨front, rest, rfl, hf⟩ := exists_front hshort
    exact headerV0_front policy hf rest

private theorem exists_entry {n : Nat} {octets : Octets} (h : n < octets.length) :
    ∃ content following more, octets = content ++ following :: more ∧ content.length = n :=
  ⟨octets.take n, octets[n], octets.drop (n + 1), by simp,
    List.length_take_of_le (Nat.le_of_lt h)⟩

/-- An entry of a chain that ends before `stop`, and the entries after it. -/
private theorem chain_entry {stop offset : Nat} {next units following : UInt8}
    {content more : Octets} (hs : stop ≤ data.length)
    (hrest : (data.take stop).drop offset = units :: (content ++ following :: more))
    (hnext : next ≠ 0) (hunits : units ≠ 0) (hc : content.length = 4 * units.toNat - 2) :
    (data.take stop).drop (offset + 4 * units.toNat) = more ∧
      chain data stop offset next = (do
        let (extensions, after) ← chain data stop (offset + 4 * units.toNat) following
        return (⟨next, content⟩ :: extensions, after)) := by
  have hu : units.toNat ≠ 0 := fun hz => hunits (UInt8.toNat_inj.1 hz)
  have hlength := congrArg List.length hrest
  simp only [List.length_drop, List.length_take_of_le hs, List.length_cons, List.length_append]
    at hlength
  have htail : (data.take stop).drop (offset + 1) = content ++ following :: more := by
    rw [← List.drop_drop, hrest]
    rfl
  have hfollowing : (data.take stop).drop (offset + 1 + content.length) = following :: more := by
    rw [← List.drop_drop, htail, List.drop_left]
  have hlast : offset + 4 * units.toNat - 1 = offset + 1 + content.length := by omega
  have hend : offset + 4 * units.toNat = offset + 1 + content.length + 1 := by omega
  constructor
  · rw [hend, ← List.drop_drop, hfollowing]
    rfl
  · conv => lhs; unfold chain
    rw [if_neg hnext, if_neg (by omega), octet_of_take_drop hrest, ok_bind, dif_neg hunits,
      dif_neg (by omega), minus_eq (by omega), ok_bind, hlast, slice_of_drop htail (by omega) hs,
      ok_bind, octet_of_take_drop hfollowing, ok_bind]

/-- The chain, and the payload after it. -/
theorem chain_eq {stop offset : Nat} (hs : stop ≤ data.length) (ho : offset ≤ stop) (next : UInt8) :
    (do let (extensions, after) ← chain data stop offset next
        return (extensions, ← slice data after stop)) =
      answer (ExtensionHeader.decodeChain next offset ((data.take stop).drop offset)) := by
  induction hn : stop - offset using Nat.strongRecOn generalizing offset next with
  | _ n ih =>
    by_cases hnext : next = 0
    · unfold chain ExtensionHeader.decodeChain
      simp only [if_pos hnext, pure_eq, ok_bind, slice_eq ho hs]
      rfl
    have hlength : ((data.take stop).drop offset).length = stop - offset := by
      rw [List.length_drop, List.length_take_of_le hs]
    cases hrest : (data.take stop).drop offset with
    | nil =>
      rw [hrest, List.length_nil] at hlength
      have hstop : stop = offset := by omega
      unfold chain ExtensionHeader.decodeChain
      rw [if_neg hnext, if_neg hnext, hstop, if_pos (Nat.lt_succ_self offset)]
      rfl
    | cons units rest =>
      rw [hrest, List.length_cons] at hlength
      by_cases hunits : units = 0
      · unfold chain ExtensionHeader.decodeChain
        rw [if_neg hnext, if_neg hnext, if_neg (by omega), octet_of_take_drop hrest]
        simp only [ok_bind, dif_pos hunits, if_pos hunits]
        rfl
      have hu : units.toNat ≠ 0 := fun hz => hunits (UInt8.toNat_inj.1 hz)
      by_cases hshort : stop < offset + 4 * units.toNat
      · have hstop : stop = offset + 1 + rest.length := by omega
        unfold chain
        rw [ExtensionHeader.decodeChain_short hnext hunits (by omega), if_neg hnext,
          if_neg (by omega), octet_of_take_drop hrest, ok_bind, dif_neg hunits, dif_pos hshort,
          ← hstop]
        rfl
      · obtain ⟨content, following, more, rfl, hc⟩ :=
          exists_entry (by omega : 4 * units.toNat - 2 < rest.length)
        obtain ⟨hmore, hchain⟩ := chain_entry hs hrest hnext hunits hc
        have hfollowing := ih (stop - (offset + 4 * units.toNat)) (by omega)
          (Nat.le_of_not_lt hshort) following rfl
        rw [hmore] at hfollowing
        rw [hchain, ExtensionHeader.decodeChain_entry hnext hunits hc]
        simp only [answer_bind, ← hfollowing, bind_assoc, pure_eq, ok_bind, answer_ok]

theorem optionalV1_eq {stop : Nat} (hs : stop ≤ data.length)
    (ho : V1Header.fixedSize + V1Header.optionalSize ≤ stop) (header : V1Header) :
    optionalV1 data stop header =
      answer (header.parseOptional ((data.take stop).drop V1Header.fixedSize)) := by
  have hchain := chain_eq hs ho
  rw [← List.drop_drop] at hchain
  have hlength : ((data.take stop).drop V1Header.fixedSize).length = stop - V1Header.fixedSize := by
    rw [List.length_drop, List.length_take_of_le hs]
  match hblock : (data.take stop).drop V1Header.fixedSize with
  | [] | [_] | [_, _] | [_, _, _] =>
    rw [hblock] at hlength
    simp only [List.length_cons, List.length_nil, V1Header.fixedSize,
      V1Header.optionalSize] at hlength ho
    omega
  | s₁ :: s₂ :: number :: next :: rest =>
    have hoctet (i : Nat) {o : UInt8} {more : Octets}
        (h : (s₁ :: s₂ :: number :: next :: rest).drop i = o :: more) :
        octet data (V1Header.fixedSize + i) = .ok o := by
      rw [← hblock, List.drop_drop] at h
      exact octet_of_take_drop h
    have h₀ : octet data 8 = .ok s₁ := hoctet 0 rfl
    have h₁ : octet data 9 = .ok s₂ := hoctet 1 rfl
    have h₂ : octet data 10 = .ok number := hoctet 2 rfl
    have h₃ : octet data 11 = .ok next := hoctet 3 rfl
    have hnext : (if header.extended then octet data 11 else .ok 0 : Reached UInt8) =
        .ok (if header.extended then next else 0) := by
      rw [h₃]
      split <;> rfl
    simp only [hblock, List.drop_succ_cons, List.drop_zero, V1Header.optionalSize] at hchain
    simp only [optionalV1, V1Header.parseOptional, h₀, h₁, h₂, hnext, ok_bind, answer_bind,
      V1Header.optionalSize, ← hchain, bind_assoc, pure_eq, answer_ok]

private theorem headerV1_front (policy : LengthPolicy) {front : Octets}
    (hf : front.length = V1Header.fixedSize) (rest : Octets) :
    headerV1 policy (front ++ rest) = answer (V1Header.parse policy (front ++ rest)) := by
  match front, hf with
  | [flags, type, l₁, l₂, t₁, t₂, t₃, t₄], hf =>
    rw [headerV1, ensured (length_front hf rest)]
    simp only [List.cons_append, List.nil_append, pure_eq, ok_bind, octet_cons_zero,
      octet_cons_succ, uint32At, V1Header.parse, V1Header.hasOptional,
      V1Header.optional_octet, Nat.add_comm V1Header.fixedSize rest.length]
    split
    · rfl
    · split
      · split
        · rfl
        · next hlength =>
          refine payloadEnd_bind policy (_ :: _ :: _ :: _ :: _ :: _ :: _ :: _ :: rest) _
            (Nat.le_add_right V1Header.fixedSize _)
            (Nat.add_le_add_left (Nat.le_of_not_lt hlength) _) fun stop hle hle' => ?_
          rw [if_pos (by decide)]
          exact optionalV1_eq hle' hle _
      · rw [if_neg (Nat.not_lt_zero _), if_neg (Nat.not_lt_zero _)]
        refine payloadEnd_bind policy (_ :: _ :: _ :: _ :: _ :: _ :: _ :: _ :: rest) _
          (Nat.le_refl V1Header.fixedSize) (Nat.le_add_right ..) fun stop hle hle' => ?_
        rw [if_neg (by decide), slice_eq (Nat.le_of_add_right_le hle) hle']
        rfl

theorem headerV1_eq (policy : LengthPolicy) (data : Octets) :
    headerV1 policy data = answer (V1Header.parse policy data) := by
  by_cases hshort : data.length < V1Header.fixedSize
  · have hp : V1Header.parse policy data = .error (.tooShort V1Header.fixedSize data.length) := by
      unfold V1Header.parse
      split
      · simp only [List.length_cons, V1Header.fixedSize] at hshort
        omega
      · rfl
    rw [hp, headerV1, ensureSize, if_pos hshort]
    rfl
  · obtain ⟨front, rest, rfl, hf⟩ := exists_front hshort
    exact headerV1_front policy hf rest

private theorem headerV2_front (policy : LengthPolicy) {front : Octets}
    (hf : front.length = V2Header.fixedSize + V2Header.countedSize false) (rest : Octets) :
    headerV2 policy (front ++ rest) = answer (V2Header.parse policy (front ++ rest)) := by
  match front, hf with
  | [flags, type, l₁, l₂, o₁, o₂, o₃, o₄], hf =>
    have hlong := length_front hf rest
    rw [headerV2, ensured hlong]
    simp only [List.cons_append, List.nil_append, pure_eq, ok_bind, octet_cons_zero,
      octet_cons_succ, uint32At, V2Header.parse]
    split
    · rfl
    · split
      · rfl
      · next hlength =>
        generalize (flags &&& 8 != 0) = withTeid at hlength ⊢
        have hend : V2Header.fixedSize + Octets.toNat [l₁, l₂] =
            V2Header.fixedSize + V2Header.countedSize withTeid +
              (Octets.toNat [l₁, l₂] - V2Header.countedSize withTeid) := by omega
        rw [hend]
        cases withTeid with
        | false => exact payloadEnd_slice policy _ hlong _
        | true =>
          -- Without four more octets there is no room for the number of the end point.
          rcases rest with _ | ⟨s₁, _ | ⟨s₂, _ | ⟨s₃, _ | ⟨spare, rest⟩⟩⟩⟩
          iterate 4 rfl
          exact payloadEnd_slice policy _
            (Nat.le_add_left (V2Header.fixedSize + V2Header.countedSize true) rest.length) _

theorem headerV2_eq (policy : LengthPolicy) (data : Octets) :
    headerV2 policy data = answer (V2Header.parse policy data) := by
  by_cases hshort : data.length < V2Header.fixedSize + V2Header.countedSize false
  · have hp : V2Header.parse policy data =
        .error (.tooShort (V2Header.fixedSize + V2Header.countedSize false) data.length) := by
      unfold V2Header.parse
      split
      · simp +arith only [List.length_cons, V2Header.fixedSize, V2Header.countedSize,
          Bool.false_eq_true, if_false] at hshort
      · rfl
    rw [hp, headerV2, ensureSize, if_pos hshort]
    rfl
  · obtain ⟨front, rest, rfl, hf⟩ := exists_front hshort
    exact headerV2_front policy hf rest

private theorem headerPrime_front (policy : LengthPolicy) {front : Octets}
    (hf : front.length = PrimeHeader.shortSize) (rest : Octets) :
    headerPrime policy (front ++ rest) = answer (PrimeHeader.parse policy (front ++ rest)) := by
  match front, hf with
  | [flags, type, l₁, l₂, s₁, s₂], hf =>
    have hshort := length_front hf rest
    rw [headerPrime, ensured hshort]
    simp only [List.cons_append, List.nil_append, pure_eq, ok_bind, octet_cons_zero,
      octet_cons_succ, PrimeHeader.parse, PrimeHeader.size] at hshort ⊢
    split
    · rfl
    · have hlength : PrimeHeader.shortSize + rest.length =
          (flags :: type :: l₁ :: l₂ :: s₁ :: s₂ :: rest).length := Nat.add_comm ..
      rw [hlength]
      cases flags &&& 1 != 0 with
      | false =>
        simp only [Bool.false_eq_true, if_false]
        rw [ensureSize, if_neg (Nat.not_lt.2 hshort)]
        exact payloadEnd_slice policy _ hshort _
      | true =>
        simp only [if_true]
        by_cases hlong : (flags :: type :: l₁ :: l₂ :: s₁ :: s₂ :: rest).length <
            PrimeHeader.shortSize + PrimeHeader.spareSize
        · rw [ensureSize, if_pos hlong]
          rfl
        · rw [ensureSize, if_neg hlong]
          exact payloadEnd_slice policy _ (Nat.le_of_not_lt hlong) _

theorem headerPrime_eq (policy : LengthPolicy) (data : Octets) :
    headerPrime policy data = answer (PrimeHeader.parse policy data) := by
  by_cases hshort : data.length < PrimeHeader.shortSize
  · have hp : PrimeHeader.parse policy data =
        .error (.tooShort PrimeHeader.shortSize data.length) := by
      unfold PrimeHeader.parse
      split
      · simp only [List.length_cons, PrimeHeader.shortSize] at hshort
        omega
      · rfl
    rw [hp, headerPrime, ensureSize, if_pos hshort]
    rfl
  · obtain ⟨front, rest, rfl, hf⟩ := exists_front hshort
    exact headerPrime_front policy hf rest

theorem detect_eq (data : Octets) : detect data = answer (Version.detect data) := by
  match data with
  | [] => rfl
  | _ :: _ => rfl

theorem header_eq (version : Version) (policy : LengthPolicy) (data : Octets) :
    header version policy data = answer (Header.parse version policy data) := by
  cases version <;>
    simp only [header, Header.parse, headerV0_eq, headerV1_eq, headerV2_eq, headerPrime_eq,
      answer_bind, pure_eq, answer_ok]

end

end Reached
end GtpControl
