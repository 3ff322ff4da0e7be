import GtpControl.Proofs.OctetNumerals
import GtpControl.Proofs.Results
import GtpControl.Value.Tbcd
import Mathlib.Data.List.TakeWhile

/-! # Digit strings in octets: which texts are packed, and which octets are packed texts

A text of digits is packed two to an octet and comes back as it was. Any octets are read as a text of
digits, up to the first nibble that is none; they are what that text is packed into when there is no such
nibble, or only the one that fills the last octet. -/
namespace GtpControl.Tbcd
variable {c : Char} {d n : Nat} {ds ns : List Nat} {text : String} {octets : Octets}

/-! ## Digits and their values -/

def digitValue (c : Char) : Nat := c.toNat - 48

theorem isDigit_iff : c.isDigit = true ↔ 48 ≤ c.toNat ∧ c.toNat ≤ 57 := by
  simp only [Char.isDigit, Bool.and_eq_true, decide_eq_true_eq, ge_iff_le, UInt32.le_iff_toNat_le]
  exact Iff.rfl

theorem digit?_eq_some : digit? c = some d ↔ c.isDigit = true ∧ d = digitValue c := by
  rw [isDigit_iff, digit?, digitValue]
  split <;> simp_all [eq_comm]

theorem digitValue_lt (h : c.isDigit = true) : digitValue c < 10 := by
  rw [isDigit_iff] at h
  rw [digitValue]
  omega

theorem digitChar_digitValue (h : c.isDigit = true) : digitChar (digitValue c) = c := by
  rw [isDigit_iff] at h
  rw [digitChar, digitValue, Nat.add_sub_cancel' h.1, Char.ofNat_toNat]

theorem toNat_digitChar : ∀ n < 16, (digitChar n).toNat = 48 + n := by decide

/-- Of the characters that nibbles are shown as, those of the first ten are digits. -/
theorem isDigit_digitChar (h : n < 16) : (digitChar n).isDigit = true ↔ n < 10 := by
  rw [isDigit_iff, toNat_digitChar n h]
  omega

theorem digitValue_digitChar (h : n < 16) : digitValue (digitChar n) = n := by
  rw [digitValue, toNat_digitChar n h, Nat.add_sub_cancel_left]

/-- A text has digits exactly when all its characters are digits. -/
theorem digits_eq_ok :
    digits text = .ok ds ↔
      (∀ c ∈ text.toList, c.isDigit = true) ∧ ds = text.toList.map digitValue := by
  refine mapM_eq_ok_map fun c d => ?_
  rw [← digit?_eq_some]
  cases digit? c <;> simp

/-- A text that does not have digits is refused for one of its characters. -/
theorem malformed_of_digits_eq_error {e : CodecError} (h : digits text = .error e) :
    ∃ c, e = .malformed (.nonDigit c text) := by
  obtain ⟨c, -, hc⟩ := exists_of_mapM_eq_error h
  refine ⟨c, ?_⟩
  cases hd : digit? c with
  | none =>
    rw [hd] at hc
    exact (Except.error.inj hc).symm
  | some d =>
    rw [hd] at hc
    cases hc

/-- A text of digits shows them. -/
theorem toList_of_digits (h : digits text = .ok ds) :
    (∀ d ∈ ds, d < 10) ∧ ds.map digitChar = text.toList := by
  obtain ⟨hdigits, rfl⟩ := digits_eq_ok.1 h
  refine ⟨List.forall_mem_map.2 fun c hc => digitValue_lt (hdigits c hc), ?_⟩
  rw [List.map_map]
  exact (List.map_congr_left fun c hc => digitChar_digitValue (hdigits c hc)).trans (List.map_id _)

theorem ofList_of_digits (h : digits text = .ok ds) : String.ofList (ds.map digitChar) = text := by
  rw [(toList_of_digits h).2, String.ofList_toList]

theorem length_of_digits (h : digits text = .ok ds) : ds.length = text.length := by
  rw [(digits_eq_ok.1 h).2, List.length_map, String.length_toList]

/-- A text that shows nibbles has digits exactly when all the nibbles are digits, and it has those. -/
theorem digits_of_nibbles (ht : text.toList = ns.map digitChar) (h : ∀ n ∈ ns, n < 16) :
    digits text = .ok ds ↔ (∀ n ∈ ns, n < 10) ∧ ds = ns := by
  have hvalues : (ns.map digitChar).map digitValue = ns := by
    rw [List.map_map]
    exact (List.map_congr_left fun n hn => digitValue_digitChar (h n hn)).trans (List.map_id _)
  rw [digits_eq_ok, ht, hvalues, List.forall_mem_map]
  exact and_congr_left' (forall₂_congr fun n hn => isDigit_digitChar (h n hn))

/-- The text that shows some digits has them. -/
theorem digits_ofList (h : ∀ d ∈ ds, d < 10) : digits (String.ofList (ds.map digitChar)) = .ok ds :=
  (digits_of_nibbles String.toList_ofList fun d hd => Nat.lt_trans (h d hd) (by decide)).2 ⟨h, rfl⟩

theorem encode_of_digits (h : digits text = .ok ds) : encode text = .ok (pack ds) := by
  rw [encode, h]
  rfl

theorem encode_of_digits_eq_error {e : CodecError} (h : digits text = .error e) :
    encode text = .error e := by
  rw [encode, h]
  rfl

theorem encode_eq_ok :
    encode text = .ok octets ↔
      (∀ c ∈ text.toList, c.isDigit = true) ∧ octets = pack (text.toList.map digitValue) := by
  simp only [encode, bind_eq_ok, digits_eq_ok, pure_eq, Except.ok.injEq]
  constructor
  · rintro ⟨ds, ⟨h, rfl⟩, rfl⟩
    exact ⟨h, rfl⟩
  · rintro ⟨h, rfl⟩
    exact ⟨_, ⟨h, rfl⟩, rfl⟩

/-! ## Packing -/

theorem length_pack (ds : List Nat) : (pack ds).length = (ds.length + 1) / 2 := by
  induction ds using pack.induct with
  | case1 => rfl
  | case2 d => simp [pack]
  | case3 d e rest ih =>
    simp only [pack, List.length_cons, ih]
    omega

theorem low_lt (o : UInt8) : o.toNat % 16 < 16 := Nat.mod_lt _ (by decide)

theorem high_lt (o : UInt8) : o.toNat / 16 < 16 := by
  have := o.toNat_lt
  omega

/-- An octet is made up of its nibbles. -/
theorem ofNat_eq_iff {low high : Nat} (hl : low < 16) (hh : high < 16) (o : UInt8) :
    UInt8.ofNat (high * 16 + low) = o ↔ o.toNat % 16 = low ∧ o.toNat / 16 = high := by
  have ho := o.toNat_lt
  rw [← UInt8.toNat_inj, UInt8.toNat_ofNat']
  omega

theorem ofNat_nibbles (o : UInt8) : UInt8.ofNat (o.toNat / 16 * 16 + o.toNat % 16) = o :=
  (ofNat_eq_iff (low_lt o) (high_lt o) o).2 ⟨rfl, rfl⟩

@[simp] theorem nibbles_cons (o : UInt8) (rest : Octets) :
    nibbles (o :: rest) = o.toNat % 16 :: o.toNat / 16 :: nibbles rest := rfl

/-- An octet of two nibbles. -/
theorem nibbles_octet {low high : Nat} (hl : low < 16) (hh : high < 16) (rest : Octets) :
    nibbles (UInt8.ofNat (high * 16 + low) :: rest) = low :: high :: nibbles rest := by
  obtain ⟨hmod, hdiv⟩ := (ofNat_eq_iff hl hh _).1 rfl
  rw [nibbles_cons, hmod, hdiv]

theorem nibbles_append (octets more : Octets) :
    nibbles (octets ++ more) = nibbles octets ++ nibbles more :=
  List.flatMap_append

theorem length_nibbles (octets : Octets) : (nibbles octets).length = 2 * octets.length := by
  induction octets with
  | nil => rfl
  | cons o rest ih =>
    simp only [nibbles_cons, List.length_cons, ih]
    omega

theorem nibbles_lt (octets : Octets) : ∀ n ∈ nibbles octets, n < 16 := by
  induction octets with
  | nil => exact List.forall_mem_nil _
  | cons o rest ih =>
    rw [nibbles_cons, List.forall_mem_cons, List.forall_mem_cons]
    exact ⟨low_lt o, high_lt o, ih⟩

/-- Octets are told apart by their nibbles. -/
theorem nibbles_injective : Function.Injective nibbles := by
  intro octets
  induction octets with
  | nil =>
    intro more h
    cases more with
    | nil => rfl
    | cons => cases h
  | cons o rest ih =>
    intro more h
    cases more with
    | nil => cases h
    | cons o' rest' =>
      simp only [nibbles_cons, List.cons.injEq] at h
      rw [← ofNat_nibbles o, ← ofNat_nibbles o', h.1, h.2.1, ih h.2.2]

/-- The nibbles of packed digits are the digits, and a filler after an odd number of them. -/
theorem nibbles_pack (h : ∀ d ∈ ds, d < 10) :
    nibbles (pack ds) = ds ++ if ds.length % 2 = 1 then [filler] else [] := by
  induction ds using pack.induct with
  | case1 => rfl
  | case2 d =>
    have hd := h d List.mem_cons_self
    exact nibbles_octet (by omega) (by decide) []
  | case3 d e rest ih =>
    obtain ⟨hd, he, hrest⟩ : d < 10 ∧ e < 10 ∧ ∀ n ∈ rest, n < 10 := by simpa using h
    rw [pack, nibbles_octet (by omega) (by omega), ih hrest]
    simp only [List.length_cons, List.cons_append, Nat.add_assoc, Nat.reduceAdd, Nat.add_mod_right]

/-! ## Reading -/

/-- The digits up to the first nibble that is none. -/
def leading (octets : Octets) : List Nat := (nibbles octets).takeWhile (· < 10)

theorem takeWhile_lt (ns : List Nat) : ∀ d ∈ ns.takeWhile (· < 10), d < 10 := by
  intro d hd
  simpa using List.mem_takeWhile_imp hd

theorem decode_eq (octets : Octets) : decode octets = String.ofList ((leading octets).map digitChar) :=
  rfl

theorem takeWhile_of_lt (h : ∀ d ∈ ds, d < 10) : ds.takeWhile (· < 10) = ds :=
  List.takeWhile_eq_self_iff.2 (by simpa using h)

theorem leading_pack (h : ∀ d ∈ ds, d < 10) : leading (pack ds) = ds := by
  rw [leading, nibbles_pack h, List.takeWhile_append_of_pos (by simpa using h)]
  split <;> simp [filler]

theorem decode_pack (h : ∀ c ∈ text.toList, c.isDigit = true) :
    decode (pack (text.toList.map digitValue)) = text := by
  have hdigits := digits_eq_ok.2 ⟨h, rfl⟩
  rw [decode_eq, leading_pack (toList_of_digits hdigits).1, ofList_of_digits hdigits]

/-- What was read is packed from the digits that were there. -/
theorem encode_decode (octets : Octets) : encode (decode octets) = .ok (pack (leading octets)) :=
  encode_of_digits (digits_ofList (takeWhile_lt _))

/-! ## Digits that are filled up to a size -/

/-- A run of digits ends before nibbles that fill the octets up. -/
theorem takeWhile_filled (ns : List Nat) (k : Nat) :
    (ns ++ List.replicate k filler).takeWhile (· < 10) = ns.takeWhile (· < 10) := by
  induction ns with
  | nil => cases k <;> rfl
  | cons n ns ih => rw [List.cons_append, List.takeWhile_cons, List.takeWhile_cons, ih]

theorem nibbles_fillers (k : Nat) : nibbles (List.replicate k 0xff) = List.replicate (2 * k) filler := by
  induction k with
  | zero => rfl
  | succ k ih =>
    rw [List.replicate_succ, nibbles_cons, ih]
    rfl

/-- Packed digits, and octets of fillers after them. -/
def filled (size : Nat) (ds : List Nat) : Octets :=
  pack ds ++ List.replicate (size - (pack ds).length) 0xff

theorem length_filled {size : Nat} (hl : ds.length ≤ 2 * size) : (filled size ds).length = size := by
  rw [filled, List.length_append, List.length_replicate, length_pack]
  omega

theorem nibbles_filled {size : Nat} (h : ∀ d ∈ ds, d < 10) (hl : ds.length ≤ 2 * size) :
    nibbles (filled size ds) = ds ++ List.replicate (2 * size - ds.length) filler := by
  have hodd : (if ds.length % 2 = 1 then [filler] else []) = List.replicate (ds.length % 2) filler := by
    rcases Nat.mod_two_eq_zero_or_one ds.length with h | h <;> rw [h] <;> rfl
  rw [filled, nibbles_append, nibbles_pack h, nibbles_fillers, length_pack, hodd, List.append_assoc,
    List.replicate_append_replicate]
  congr 2
  omega

theorem decode_filled {size : Nat} (h : digits text = .ok ds) (hl : ds.length ≤ 2 * size) :
    decode (filled size ds) = text := by
  have hlt := (toList_of_digits h).1
  rw [decode_eq, leading, nibbles_filled hlt hl, takeWhile_filled, takeWhile_of_lt hlt,
    ofList_of_digits h]

/-! ## Octets that are packed digits -/

/-- All nibbles are digits, but that the last octet may be filled up. -/
def Canonical (octets : Octets) : Prop :=
  ∀ i (h : i < octets.length), octets[i].toNat % 16 < 10 ∧
    (octets[i].toNat / 16 < 10 ∨ i + 1 = octets.length ∧ octets[i].toNat / 16 = filler)

instance : DecidablePred Canonical := fun octets =>
  inferInstanceAs (Decidable (∀ i (h : i < octets.length), octets[i].toNat % 16 < 10 ∧
    (octets[i].toNat / 16 < 10 ∨ i + 1 = octets.length ∧ octets[i].toNat / 16 = filler)))

theorem canonical_nil : Canonical [] := fun i h => absurd h (Nat.not_lt_zero i)

theorem canonical_cons (o : UInt8) (rest : Octets) :
    Canonical (o :: rest) ↔ o.toNat % 16 < 10 ∧
      (o.toNat / 16 < 10 ∨ rest = [] ∧ o.toNat / 16 = filler) ∧ Canonical rest := by
  have hlast (i : Nat) : i + 1 + 1 = (o :: rest).length ↔ i + 1 = rest.length := by
    rw [List.length_cons, Nat.add_right_cancel_iff]
  have hempty : 0 + 1 = (o :: rest).length ↔ rest = [] := by
    rw [List.length_cons, Nat.add_right_cancel_iff, eq_comm, List.length_eq_zero_iff]
  constructor
  · intro h
    obtain ⟨hlow, hhigh⟩ := h 0 (Nat.zero_lt_succ _)
    rw [hempty] at hhigh
    refine ⟨hlow, hhigh, fun i hi => ?_⟩
    obtain ⟨hlow, hhigh⟩ := h (i + 1) (Nat.succ_lt_succ hi)
    rw [hlast] at hhigh
    exact ⟨hlow, hhigh⟩
  · rintro ⟨hlow, hhigh, hrest⟩ i hi
    cases i with
    | zero => exact ⟨hlow, by rwa [hempty]⟩
    | succ i =>
      obtain ⟨hlow, hhigh⟩ := hrest i (Nat.lt_of_succ_lt_succ hi)
      exact ⟨hlow, by rwa [hlast]⟩

/-- Octets are packed from the digits that they start with exactly when they hold nothing else. -/
theorem pack_leading_eq_iff (octets : Octets) : pack (leading octets) = octets ↔ Canonical octets := by
  induction octets with
  | nil => exact iff_of_true rfl canonical_nil
  | cons o rest ih =>
    rw [canonical_cons, leading, nibbles_cons]
    by_cases hl : o.toNat % 16 < 10
    · by_cases hh : o.toNat / 16 < 10
      · rw [List.takeWhile_cons_of_pos (by simpa using hl),
          List.takeWhile_cons_of_pos (by simpa using hh), pack, ← leading, ofNat_nibbles,
          List.cons.injEq, ih]
        simp [hl, hh]
      · -- The filler is the only nibble that may stand after the last digit.
        rw [List.takeWhile_cons_of_pos (by simpa using hl),
          List.takeWhile_cons_of_neg (by simpa using hh), pack, List.cons.injEq,
          ofNat_eq_iff (low_lt o) (by decide)]
        simp only [hl, hh, true_and, false_or, eq_comm (a := [])]
        constructor
        · rintro ⟨hf, rfl⟩
          exact ⟨⟨rfl, hf⟩, canonical_nil⟩
        · rintro ⟨⟨rfl, hf⟩, -⟩
          exact ⟨hf, rfl⟩
    · rw [List.takeWhile_cons_of_neg (by simpa using hl), pack]
      simp [hl]

/-- A text is packed exactly when it has nothing but digits, two to an octet, and is read again as it
was. What is read of any octets is a text of digits, and those octets are what it is packed into exactly
when all their nibbles are digits, but that the last octet may be filled up. -/
theorem exact_both_ways :
    (∀ text,
      ((∃ octets, encode text = .ok octets) ↔ ∀ c ∈ text.toList, c.isDigit = true) ∧
      ∀ octets, encode text = .ok octets →
        octets.length = (text.length + 1) / 2 ∧ decode octets = text) ∧
    ∀ octets, (∀ c ∈ (decode octets).toList, c.isDigit = true) ∧
      ∃ again, encode (decode octets) = .ok again ∧ (again = octets ↔ Canonical octets) := by
  refine ⟨fun text => ⟨⟨?_, ?_⟩, fun octets h => ?_⟩, fun octets => ⟨?_, ?_⟩⟩
  · rintro ⟨octets, h⟩
    exact (encode_eq_ok.1 h).1
  · exact fun h => ⟨_, encode_eq_ok.2 ⟨h, rfl⟩⟩
  · obtain ⟨hdigits, rfl⟩ := encode_eq_ok.1 h
    refine ⟨?_, decode_pack hdigits⟩
    rw [length_pack, List.length_map, String.length_toList]
  · exact (encode_eq_ok.1 (encode_decode octets)).1
  · exact ⟨_, encode_decode octets, pack_leading_eq_iff octets⟩

/-- An odd number of digits is filled up and read again; a filler that is not at the end hides the
digits after it, and the octets are not what is packed. -/
theorem exact_both_ways_odd :
    decode [0x21, 0xf3] = "123" ∧ encode (decode [0x21, 0xf3]) = .ok [0x21, 0xf3] ∧
      decode [0x2f, 0x43] = "" ∧ encode (decode [0x2f, 0x43]) ≠ .ok [0x2f, 0x43] := by
  have hodd := exact_both_ways.1 "123"
  refine ⟨(hodd.2 [0x21, 0xf3] rfl).2, ?_, rfl, fun h => ?_⟩
  · obtain ⟨again, he, hiff⟩ := (exact_both_ways.2 [0x21, 0xf3]).2
    rwa [hiff.2 (by decide)] at he
  · obtain ⟨again, he, hiff⟩ := (exact_both_ways.2 [0x2f, 0x43]).2
    cases he.symm.trans h
    exact absurd (hiff.1 rfl) (by decide)

end GtpControl.Tbcd
