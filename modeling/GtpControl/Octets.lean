/-! # Octet strings, big-endian numbers and hexadecimal text -/
namespace GtpControl

/-- A datagram or a part of one. -/
abbrev Octets := List UInt8

/-- The sum of sizes. -/
def total : List Nat → Nat
  | [] => 0
  | size :: sizes => size + total sizes

namespace Octets

/-- The number a big-endian octet string denotes. -/
def toNat (octets : Octets) : Nat := octets.foldl (fun n o => n * 256 + o.toNat) 0

/-- The last `width` base-256 digits of a number, most significant first. -/
def ofNat : (width n : Nat) → Octets
  | 0, _ => []
  | width + 1, n => UInt8.ofNat (n / Nat.pow 256 width) :: ofNat width n

@[simp] theorem length_ofNat (width n : Nat) : (ofNat width n).length = width := by
  induction width with
  | zero => rfl
  | succ width ih => simp [ofNat, ih]

def ofUInt16 (n : UInt16) : Octets := ofNat 2 n.toNat

def ofUInt32 (n : UInt32) : Octets := ofNat 4 n.toNat

def ofUInt64 (n : UInt64) : Octets := ofNat 8 n.toNat

@[simp] theorem length_ofUInt16 (n : UInt16) : (ofUInt16 n).length = 2 := length_ofNat ..

@[simp] theorem length_ofUInt32 (n : UInt32) : (ofUInt32 n).length = 4 := length_ofNat ..

@[simp] theorem length_ofUInt64 (n : UInt64) : (ofUInt64 n).length = 8 := length_ofNat ..

def uint16 (octets : Octets) : UInt16 := .ofNat octets.toNat

def uint32 (octets : Octets) : UInt32 := .ofNat octets.toNat

def uint64 (octets : Octets) : UInt64 := .ofNat octets.toNat

/-- The first `n` octets and the rest, when there are that many. -/
def split? (n : Nat) (octets : Octets) : Option (Octets × Octets) :=
  if (octets.take n).length = n then some (octets.take n, octets.drop n) else none

theorem split?_eq_some {n : Nat} {octets front back : Octets} :
    split? n octets = some (front, back) ↔ octets = front ++ back ∧ front.length = n := by
  unfold split?
  split
  · next h =>
    simp only [Option.some.injEq, Prod.mk.injEq]
    constructor
    · rintro ⟨rfl, rfl⟩
      exact ⟨(List.take_append_drop ..).symm, h⟩
    · rintro ⟨rfl, rfl⟩
      simp
  · next h =>
    simp only [reduceCtorEq, false_iff]
    rintro ⟨rfl, rfl⟩
    simp at h

theorem split?_eq_none {n : Nat} {octets : Octets} :
    split? n octets = none ↔ octets.length < n := by
  unfold split?
  rw [List.length_take]
  split <;> simp <;> omega

/-- Lower-case hexadecimal digit of a value below sixteen. -/
def hexDigit (n : Nat) : Char :=
  if n < 10 then Char.ofNat (48 + n) else Char.ofNat (87 + n)

def toHexChars (octets : Octets) : List Char :=
  octets.flatMap fun o => [hexDigit (o.toNat / 16), hexDigit (o.toNat % 16)]

/-- Two lower-case digits per octet. -/
def toHex (octets : Octets) : String := String.ofList octets.toHexChars

end Octets

/-- The digits of a number in lower-case hexadecimal, without leading zeros. -/
def hexNumeral (n : Nat) : String := String.ofList (Nat.toDigits 16 n)

/-- A hexadecimal numeral with its marker, padded with zeros to `width` digits. -/
def hexPadded (width n : Nat) : String :=
  let digits := Nat.toDigits 16 n
  "0x" ++ String.ofList (List.replicate (width - digits.length) '0' ++ digits)

end GtpControl
