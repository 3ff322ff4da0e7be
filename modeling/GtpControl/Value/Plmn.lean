import GtpControl.Value.Tbcd

/-! # Mobile network identities: country code and network code in three octets -/
namespace GtpControl

structure Plmn where
  mcc : String
  mnc : String
deriving DecidableEq, Repr, Inhabited

namespace Plmn

def toText (plmn : Plmn) : String := s!"{plmn.mcc}-{plmn.mnc}"

/-- Three digits of country, two or three of network; a missing third one is written as filler. -/
def encode (plmn : Plmn) : Coded Octets := do
  let mcc ← Tbcd.digits plmn.mcc
  let mnc ← Tbcd.digits plmn.mnc
  match mcc, mnc with
  | [c1, c2, c3], [n1, n2] =>
    return [.ofNat (c2 * 16 + c1), .ofNat (Tbcd.filler * 16 + c3), .ofNat (n2 * 16 + n1)]
  | [c1, c2, c3], [n1, n2, n3] =>
    return [.ofNat (c2 * 16 + c1), .ofNat (n3 * 16 + c3), .ofNat (n2 * 16 + n1)]
  | _, _ => throw (.malformed (.plmn plmn.mcc plmn.mnc))

/-- Nibbles are shown in decimal, so those above nine give more than one digit; only a third
network nibble is shown as the one character that follows the digits. -/
def decode : Octets → Coded Plmn
  | first :: second :: third :: _ =>
    let low (o : UInt8) := o.toNat % 16
    let high (o : UInt8) := o.toNat / 16
    let mcc := s!"{low first}{high first}{low second}"
    let mnc := s!"{low third}{high third}"
    pure ⟨mcc, if high second = Tbcd.filler then mnc else mnc.push (Tbcd.digitChar (high second))⟩
  | octets => throw (.tooShort 3 octets.length)

end Plmn
end GtpControl
