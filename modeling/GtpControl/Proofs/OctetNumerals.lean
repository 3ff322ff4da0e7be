import GtpControl.CodecError
import Mathlib.Tactic.Ring

/-! # Big-endian numbers: writing and reading are inverse at every width -/
namespace GtpControl

/-- What holds of the first 256 numbers holds of every octet. -/
theorem forall_octet {p : UInt8 → Prop} (h : ∀ n < 256, p (.ofNat n)) (o : UInt8) : p o := by
  have ho := h o.toNat o.toNat_lt
  rwa [UInt8.ofNat_toNat] at ho

namespace Octets

private theorem foldl_eq (n : Nat) (octets : Octets) :
    octets.foldl (fun n o => n * 256 + o.toNat) n = n * 256 ^ octets.length + octets.toNat := by
  induction octets generalizing n with
  | nil => simp [toNat]
  | cons o rest ih =>
    have hz := ih (0 * 256 + o.toNat)
    simp only [toNat, List.foldl_cons, List.length_cons]
    rw [ih, hz, Nat.pow_succ]
    ring

theorem toNat_cons (o : UInt8) (rest : Octets) :
    toNat (o :: rest) = o.toNat * 256 ^ rest.length + toNat rest := by
  have h := foldl_eq (0 * 256 + o.toNat) rest
  rw [Nat.zero_mul, Nat.zero_add] at h
  simpa [toNat] using h

theorem toNat_lt (octets : Octets) : toNat octets < 256 ^ octets.length := by
  induction octets with
  | nil => simp [toNat]
  | cons o rest ih =>
    have ho : o.toNat + 1 ≤ 256 := o.toNat_lt
    rw [toNat_cons, List.length_cons, Nat.pow_succ]
    calc
      _ < o.toNat * 256 ^ rest.length + 256 ^ rest.length := Nat.add_lt_add_left ih _
      _ = (o.toNat + 1) * 256 ^ rest.length := by ring
      _ ≤ 256 * 256 ^ rest.length := Nat.mul_le_mul_right _ ho
      _ = _ := Nat.mul_comm ..

/-- A number that needs more digits than there are loses the higher ones. -/
theorem toNat_ofNat_mod (width n : Nat) : toNat (ofNat width n) = n % 256 ^ width := by
  induction width with
  | zero => simp [ofNat, toNat, Nat.mod_one]
  | succ width ih =>
    have hd : (UInt8.ofNat (n / Nat.pow 256 width)).toNat = n / 256 ^ width % 256 :=
      UInt8.toNat_ofNat'
    have hm : n % (256 ^ width * 256) = n % 256 ^ width + 256 ^ width * (n / 256 ^ width % 256) :=
      Nat.mod_mul
    rw [ofNat, toNat_cons, length_ofNat, ih, hd, Nat.pow_succ, hm]
    ring

theorem toNat_ofNat {width n : Nat} (h : n < 256 ^ width) : toNat (ofNat width n) = n := by
  rw [toNat_ofNat_mod, Nat.mod_eq_of_lt h]

/-- Octets of one length are told apart by the numbers that they denote. -/
theorem eq_of_toNat_eq {octets octets' : Octets} (hl : octets.length = octets'.length)
    (h : toNat octets = toNat octets') : octets = octets' := by
  induction octets generalizing octets' with
  | nil => exact (List.length_eq_zero_iff.1 hl.symm).symm
  | cons o rest ih =>
    cases octets' with
    | nil => cases hl
    | cons o' rest' =>
      have hl : rest.length = rest'.length := Nat.succ.inj hl
      have hr := toNat_lt rest
      have hr' := toNat_lt rest'
      rw [toNat_cons, toNat_cons, hl] at h
      rw [hl] at hr
      have hp : 0 < 256 ^ rest'.length := Nat.pow_pos (by decide)
      -- The first octet is the quotient, and the others denote the remainder.
      have hq : o.toNat = o'.toNat := by
        have hd := congrArg (· / 256 ^ rest'.length) h
        simpa only [Nat.mul_comm _ (256 ^ _), Nat.mul_add_div hp, Nat.div_eq_of_lt hr,
          Nat.div_eq_of_lt hr', Nat.add_zero] using hd
      rw [hq] at h
      rw [UInt8.toNat_inj.1 hq, ih hl (Nat.add_left_cancel h)]

theorem ofNat_toNat {width : Nat} {octets : Octets} (h : octets.length = width) :
    ofNat width octets.toNat = octets := by
  have hlt := toNat_lt octets
  rw [h] at hlt
  exact eq_of_toNat_eq (by rw [length_ofNat, h]) (toNat_ofNat hlt)

theorem ofUInt32_uint32 (a b c d : UInt8) : ofUInt32 (uint32 [a, b, c, d]) = [a, b, c, d] := by
  have hlt : toNat [a, b, c, d] < 256 ^ 4 := toNat_lt [a, b, c, d]
  have hn : (UInt32.ofNat (toNat [a, b, c, d])).toNat = toNat [a, b, c, d] := by
    rw [UInt32.toNat_ofNat']
    exact Nat.mod_eq_of_lt hlt
  rw [ofUInt32, uint32, hn]
  exact ofNat_toNat rfl

theorem ofUInt16_uint16 (a b : UInt8) : ofUInt16 (uint16 [a, b]) = [a, b] := by
  have hlt : toNat [a, b] < 256 ^ 2 := toNat_lt [a, b]
  have hn : (UInt16.ofNat (toNat [a, b])).toNat = toNat [a, b] := by
    rw [UInt16.toNat_ofNat']
    exact Nat.mod_eq_of_lt hlt
  rw [ofUInt16, uint16, hn]
  exact ofNat_toNat rfl

theorem ofUInt64_uint64_of_length {octets : Octets} (h : octets.length = 8) :
    ofUInt64 (uint64 octets) = octets := by
  have hlt := toNat_lt octets
  rw [h] at hlt
  have hn : (UInt64.ofNat octets.toNat).toNat = octets.toNat := by
    rw [UInt64.toNat_ofNat']
    exact Nat.mod_eq_of_lt hlt
  rw [ofUInt64, uint64, hn]
  exact ofNat_toNat h

theorem ofUInt64_uint64 (a b c d e f g h : UInt8) :
    ofUInt64 (uint64 [a, b, c, d, e, f, g, h]) = [a, b, c, d, e, f, g, h] :=
  ofUInt64_uint64_of_length rfl

@[simp] theorem uint16_ofUInt16 (n : UInt16) : uint16 (ofUInt16 n) = n := by
  rw [uint16, ofUInt16, toNat_ofNat n.toNat_lt, UInt16.ofNat_toNat]

@[simp] theorem uint32_ofUInt32 (n : UInt32) : uint32 (ofUInt32 n) = n := by
  rw [uint32, ofUInt32, toNat_ofNat n.toNat_lt, UInt32.ofNat_toNat]

@[simp] theorem uint64_ofUInt64 (n : UInt64) : uint64 (ofUInt64 n) = n := by
  rw [uint64, ofUInt64, toNat_ofNat n.toNat_lt, UInt64.ofNat_toNat]

/-! Written numbers, octet by octet. -/

theorem exists_ofUInt16 (n : UInt16) : ∃ a b, ofUInt16 n = [a, b] ∧ uint16 [a, b] = n :=
  ⟨_, _, rfl, uint16_ofUInt16 n⟩

theorem exists_ofUInt32 (n : UInt32) :
    ∃ a b c d, ofUInt32 n = [a, b, c, d] ∧ uint32 [a, b, c, d] = n :=
  ⟨_, _, _, _, rfl, uint32_ofUInt32 n⟩

theorem exists_ofUInt64 (n : UInt64) :
    ∃ a b c d e f g h, ofUInt64 n = [a, b, c, d, e, f, g, h] ∧
      uint64 [a, b, c, d, e, f, g, h] = n :=
  ⟨_, _, _, _, _, _, _, _, rfl, uint64_ofUInt64 n⟩

theorem exists_ofNat_three {n : Nat} (h : n < 256 ^ 3) :
    ∃ a b c, ofNat 3 n = [a, b, c] ∧ toNat [a, b, c] = n :=
  ⟨_, _, _, rfl, toNat_ofNat h⟩

theorem split?_append {n : Nat} {front : Octets} (h : front.length = n) (back : Octets) :
    split? n (front ++ back) = some (front, back) :=
  split?_eq_some.2 ⟨rfl, h⟩

end Octets

@[simp] theorem total_append (sizes more : List Nat) :
    total (sizes ++ more) = total sizes + total more := by
  induction sizes with
  | nil => simp [total]
  | cons size sizes ih => simp only [List.cons_append, total, ih]; omega

/-- The order of sizes does not matter for their sum. -/
theorem total_perm {sizes sizes' : List Nat} (h : sizes.Perm sizes') :
    total sizes = total sizes' := by
  induction h with
  | nil => rfl
  | cons size _ ih => simp only [total, ih]
  | swap size size' sizes => simp only [total]; omega
  | trans _ _ ih ih' => exact ih.trans ih'

theorem total_map_length {α β : Type} (f : α → List β) (xs : List α) :
    total (xs.map fun x => (f x).length) = (xs.flatMap f).length := by
  induction xs with
  | nil => rfl
  | cons x xs ih => simp [total, ih]

/-! ## Length fields -/

theorem lengthField_eq_ok {length : Nat} {field : Octets} :
    lengthField length = .ok field ↔ length ≤ maxLength ∧ field = Octets.ofNat 2 length := by
  rw [lengthField]
  split
  · next h => simp [throw, throwThe, MonadExceptOf.throw]; omega
  · next h =>
    simp only [pure, Except.pure, Except.ok.injEq]
    constructor
    · rintro rfl
      exact ⟨by omega, rfl⟩
    · rintro ⟨_, rfl⟩
      rfl

theorem lengthField_eq_error {length : Nat} {e : CodecError} :
    lengthField length = .error e ↔ maxLength < length ∧ e = .tooLarge length := by
  rw [lengthField]
  split
  · next h => simp [throw, throwThe, MonadExceptOf.throw, h, eq_comm (a := e)]
  · next h => simp [pure, Except.pure, h]

/-- What fits a length field is read from it again. -/
theorem toNat_lengthField {length : Nat} (h : length ≤ maxLength) :
    Octets.toNat (Octets.ofNat 2 length) = length :=
  Octets.toNat_ofNat (Nat.lt_of_le_of_lt h (by decide))

theorem exists_lengthField {length : Nat} (h : length ≤ maxLength) :
    ∃ a b, Octets.ofNat 2 length = [a, b] ∧ Octets.toNat [a, b] = length :=
  ⟨_, _, rfl, toNat_lengthField h⟩

theorem toNat_two_le (a b : UInt8) : Octets.toNat [a, b] ≤ maxLength := by
  have h := Octets.toNat_lt [a, b]
  simp only [List.length_cons, List.length_nil] at h
  rw [maxLength]
  omega

end GtpControl
