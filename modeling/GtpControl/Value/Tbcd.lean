import GtpControl.CodecError

/-! # Telephony digit strings: two decimal digits per octet, low nibble first -/
namespace GtpControl.Tbcd

/-- The value of an ASCII decimal digit. -/
def digit? (c : Char) : Option Nat :=
  if 48 ≤ c.toNat ∧ c.toNat ≤ 57 then some (c.toNat - 48) else none

/-- The digits of a text; the first character that is none is reported with the text. -/
def digits (text : String) : Coded (List Nat) :=
  text.toList.mapM fun c =>
    match digit? c with
    | some d => pure d
    | none => throw (.malformed (.nonDigit c text))

/-- The nibble that fills the last octet of an odd number of digits. -/
def filler : Nat := 15

/-- Two digits to an octet, the first in the low nibble. -/
def pack : List Nat → Octets
  | [] => []
  | [d] => [UInt8.ofNat (filler * 16 + d)]
  | d :: e :: rest => UInt8.ofNat (e * 16 + d) :: pack rest

def encode (text : String) : Coded Octets := return pack (← digits text)

/-- The nibbles of an octet string in the order of their digits. -/
def nibbles (octets : Octets) : List Nat := octets.flatMap fun o => [o.toNat % 16, o.toNat / 16]

def digitChar (n : Nat) : Char := Char.ofNat (48 + n)

/-- The digits up to the first nibble that is none. -/
def decode (octets : Octets) : String :=
  String.ofList (((nibbles octets).takeWhile (· < 10)).map digitChar)

end GtpControl.Tbcd
