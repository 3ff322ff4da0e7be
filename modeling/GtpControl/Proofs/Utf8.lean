import GtpControl.Text.Utf8
import Mathlib.Tactic.SplitIfs

/-! # What is encoded as UTF-8 is decoded as it was

Each character is read back from its octets, whatever follows them: the leading octet asks for as many
continuation octets as the encoder has written, and within the bounds that it leaves for the first one. -/
namespace GtpControl.Text
variable {more n v : Nat} {low high lead o : UInt8} {rest : Octets}

@[simp] theorem utf8_nil : utf8 [] = [] := rfl

@[simp] theorem utf8_cons (c : Char) (chars : List Char) :
    utf8 (c :: chars) = String.utf8EncodeChar c ++ utf8 chars := rfl

theorem length_utf8 (chars : List Char) :
    (utf8 chars).length = (String.ofList chars).utf8ByteSize :=
  List.size_toByteArray.symm

/-! ## Continuation octets -/

/-- The octet that continues a character with the lowest six bits of a value. -/
def tail (n : Nat) : UInt8 := UInt8.ofNat (n % 64 + 128)

theorem toNat_tail (n : Nat) : (tail n).toNat = n % 64 + 128 :=
  UInt8.toNat_ofNat_of_lt' (show n % 64 + 128 < 256 by omega)

theorem isContinuation_iff :
    isContinuation low high o = true ↔ low.toNat ≤ o.toNat ∧ o.toNat ≤ high.toNat := by
  rw [isContinuation, Bool.and_eq_true, decide_eq_true_eq, decide_eq_true_eq, UInt8.le_iff_toNat_le,
    UInt8.le_iff_toNat_le]

theorem isContinuation_tail (n : Nat) : isContinuation 0x80 0xbf (tail n) = true := by
  rw [isContinuation_iff, toNat_tail]
  simp only [UInt8.reduceToNat]
  omega

/-- A continuation octet within the bounds adds its six bits to the value. -/
theorem readContinuations_tail (h : isContinuation low high (tail n) = true) :
    readContinuations (more + 1) low high v (tail n :: rest) =
      readContinuations more 0x80 0xbf (v * 64 + n % 64) rest := by
  have hbits : (n % 64 + 128) % 64 = n % 64 := by omega
  rw [readContinuations, if_pos h, toNat_tail, hbits]

/-! ## Leading octets

The bits of the value that a leading octet has room for stand behind a mark, which tells how many octets
follow. -/

theorem continuations_one (hlead : lead.toNat = v) (hv : v < 0x80) :
    continuations lead = some (0, 0x80, 0xbf) := by
  simp only [continuations, UInt8.lt_iff_toNat_lt, hlead, UInt8.reduceToNat]
  rw [if_pos hv]

theorem continuations_two (hlead : lead.toNat = v / 64 + 192) (hl : 0x80 ≤ v) (hv : v < 0x800) :
    continuations lead = some (1, 0x80, 0xbf) := by
  simp only [continuations, UInt8.lt_iff_toNat_lt, hlead, UInt8.reduceToNat]
  rw [if_neg (by omega), if_neg (by omega), if_pos (by omega)]

/-- After `0xe0` the lowest continuation octets are left out, as shorter encodings have those values; after
`0xed` the highest are, as surrogates have those. -/
theorem continuations_three (hlead : lead.toNat = v / 4096 + 224) (hl : 0x800 ≤ v) (hv : v < 0x10000)
    (hs : v < 0xd800 ∨ 0xdfff < v) :
    ∃ low high, continuations lead = some (2, low, high) ∧
      isContinuation low high (tail (v / 64)) = true := by
  have hlt : v / 4096 + 224 < 240 := by omega
  simp only [continuations, UInt8.lt_iff_toNat_lt, ← UInt8.toNat_inj, hlead, UInt8.reduceToNat,
    isContinuation_iff, toNat_tail]
  rw [if_neg (by omega), if_neg (by omega), if_neg (by omega), if_pos hlt]
  split_ifs with he0 hed
  · exact ⟨0xa0, 0xbf, rfl, by simp only [UInt8.reduceToNat]; omega⟩
  · exact ⟨0x80, 0x9f, rfl, by simp only [UInt8.reduceToNat]; omega⟩
  · exact ⟨0x80, 0xbf, rfl, by simp only [UInt8.reduceToNat]; omega⟩

/-- After `0xf0` the lowest continuation octets are left out, and after `0xf4` those of values that are
too large for a character. -/
theorem continuations_four (hlead : lead.toNat = v / 262144 + 240) (hl : 0x10000 ≤ v)
    (hv : v < 0x110000) :
    ∃ low high, continuations lead = some (3, low, high) ∧
      isContinuation low high (tail (v / 4096)) = true := by
  simp only [continuations, UInt8.lt_iff_toNat_lt, ← UInt8.toNat_inj, hlead, UInt8.reduceToNat,
    isContinuation_iff, toNat_tail]
  rw [if_neg (by omega), if_neg (by omega), if_neg (by omega), if_neg (by omega), if_neg (by omega),
    if_neg (by omega)]
  split_ifs with hf0 hlt hf4
  · exact ⟨0x90, 0xbf, rfl, by simp only [UInt8.reduceToNat]; omega⟩
  · exact ⟨0x80, 0xbf, rfl, by simp only [UInt8.reduceToNat]; omega⟩
  · exact ⟨0x80, 0x8f, rfl, by simp only [UInt8.reduceToNat]; omega⟩
  · omega

/-! ## Characters -/

theorem readChar_eq {bits : Nat} (hc : continuations lead = some (more, low, high))
    (hb : leadBits more lead = bits) :
    readChar lead rest = readContinuations more low high bits rest := by
  rw [readChar, hc, ← hb]

theorem readChar_one (hv : v < 0x80) : readChar (UInt8.ofNat v) rest = (some (Char.ofNat v), rest) := by
  have hlead : (UInt8.ofNat v).toNat = v := UInt8.toNat_ofNat_of_lt' (show v < 256 by omega)
  rw [readChar_eq (continuations_one hlead hv) hlead, readContinuations]

theorem readChar_two (hl : 0x80 ≤ v) (hv : v < 0x800) :
    readChar (UInt8.ofNat (v / 64 % 32 + 192)) (tail v :: rest) = (some (Char.ofNat v), rest) := by
  have hlead : (UInt8.ofNat (v / 64 % 32 + 192)).toNat = v / 64 + 192 := by
    rw [UInt8.toNat_ofNat']
    omega
  have hbits : leadBits 1 (UInt8.ofNat (v / 64 % 32 + 192)) = v / 64 := by
    rw [leadBits, hlead]
    omega
  have hvalue : v / 64 * 64 + v % 64 = v := by omega
  rw [readChar_eq (continuations_two hlead hl hv) hbits, readContinuations_tail (isContinuation_tail v),
    readContinuations, hvalue]

theorem readChar_three (hl : 0x800 ≤ v) (hv : v < 0x10000) (hs : v < 0xd800 ∨ 0xdfff < v) :
    readChar (UInt8.ofNat (v / 4096 % 16 + 224)) (tail (v / 64) :: tail v :: rest) =
      (some (Char.ofNat v), rest) := by
  have hlead : (UInt8.ofNat (v / 4096 % 16 + 224)).toNat = v / 4096 + 224 := by
    rw [UInt8.toNat_ofNat']
    omega
  have hbits : leadBits 2 (UInt8.ofNat (v / 4096 % 16 + 224)) = v / 4096 := by
    rw [leadBits, hlead]
    omega
  have hvalue : (v / 4096 * 64 + v / 64 % 64) * 64 + v % 64 = v := by omega
  obtain ⟨low, high, hcont, hfirst⟩ := continuations_three hlead hl hv hs
  rw [readChar_eq hcont hbits, readContinuations_tail hfirst,
    readContinuations_tail (isContinuation_tail v), readContinuations, hvalue]

theorem readChar_four (hl : 0x10000 ≤ v) (hv : v < 0x110000) :
    readChar (UInt8.ofNat (v / 262144 % 8 + 240))
        (tail (v / 4096) :: tail (v / 64) :: tail v :: rest) = (some (Char.ofNat v), rest) := by
  have hlead : (UInt8.ofNat (v / 262144 % 8 + 240)).toNat = v / 262144 + 240 := by
    rw [UInt8.toNat_ofNat']
    omega
  have hbits : leadBits 3 (UInt8.ofNat (v / 262144 % 8 + 240)) = v / 262144 := by
    simp only [leadBits, hlead]
    omega
  have hvalue : ((v / 262144 * 64 + v / 4096 % 64) * 64 + v / 64 % 64) * 64 + v % 64 = v := by omega
  obtain ⟨low, high, hcont, hfirst⟩ := continuations_four hlead hl hv
  rw [readChar_eq hcont hbits, readContinuations_tail hfirst,
    readContinuations_tail (isContinuation_tail (v / 64)),
    readContinuations_tail (isContinuation_tail v), readContinuations, hvalue]

/-- A character is read back from its octets, and what follows them is left. -/
theorem readChar_utf8EncodeChar (c : Char) (rest : Octets) :
    ∃ lead tails, String.utf8EncodeChar c = lead :: tails ∧
      readChar lead (tails ++ rest) = (some c, rest) := by
  have hvalid : c.val.toNat < 0xd800 ∨ 0xdfff < c.val.toNat ∧ c.val.toNat < 0x110000 := c.valid
  have hc : c = Char.ofNat c.val.toNat := (Char.ofNat_toNat c).symm
  rw [String.utf8EncodeChar]
  generalize c.val.toNat = v at hvalid hc
  subst hc
  split_ifs with h1 h2 h3
  · exact ⟨_, [], rfl, readChar_one (by omega)⟩
  · exact ⟨_, [tail v], rfl, readChar_two (by omega) (by omega)⟩
  · exact ⟨_, [tail (v / 64), tail v], rfl, readChar_three (by omega) (by omega) (by omega)⟩
  · exact ⟨_, [tail (v / 4096), tail (v / 64), tail v], rfl, readChar_four (by omega) (by omega)⟩

/-- No character of an encoded text is replaced. -/
theorem decodeLossy_utf8 (chars : List Char) : decodeLossy (utf8 chars) = chars := by
  induction chars with
  | nil => rw [utf8_nil, decodeLossy]
  | cons c chars ih =>
    obtain ⟨lead, tails, hoctets, hread⟩ := readChar_utf8EncodeChar c (utf8 chars)
    rw [utf8_cons, hoctets, List.cons_append, decodeLossy, hread, ih, Option.getD_some]

end GtpControl.Text
