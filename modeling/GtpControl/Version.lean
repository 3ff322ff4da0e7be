import GtpControl.CodecError

/-! # Protocol versions, how a datagram shows its version, and how strictly its length is taken -/
namespace GtpControl

inductive Version where
  | v0 | v1 | v2 | prime
deriving DecidableEq, Repr, Inhabited

namespace Version

def label : Version → String
  | .v0 => "GTPv0"
  | .v1 => "GTPv1-C"
  | .v2 => "GTPv2-C"
  | .prime => "GTP'"

def number : Version → Nat
  | .v0 => 0
  | .v1 => 1
  | .v2 | .prime => 2

end Version

/-- GTP' leaves the protocol type bit clear and sets the three spare bits after it. -/
def isPrimeFlags (flags : UInt8) : Bool := flags &&& 0x1e == 0x0e

/-- The version that the first octet of a datagram names. -/
def Version.ofFlags (flags : UInt8) : Coded Version :=
  if isPrimeFlags flags then pure .prime
  else
    match (flags >>> 5).toNat with
    | 0 => pure .v0
    | 1 => pure .v1
    | 2 => pure .v2
    | _ => throw (.unsupportedVersion (flags >>> 5))

def Version.detect : Octets → Coded Version
  | [] => throw (.tooShort 1 0)
  | flags :: _ => Version.ofFlags flags

/-- What to do with a length field that claims more octets than the datagram has. -/
inductive LengthPolicy where
  | strict
  | lenient
deriving DecidableEq, Repr, Inhabited

/-- Cuts the payload of a datagram out of what follows its header of `headerSize` octets.
The length field says that it has `declared` octets; a lenient reader takes what there is. -/
def LengthPolicy.payload (policy : LengthPolicy) (headerSize declared : Nat) (rest : Octets) :
    Coded Octets :=
  if declared ≤ rest.length then pure (rest.take declared)
  else
    match policy with
    | .strict => throw (.tooShort (headerSize + declared) (headerSize + rest.length))
    | .lenient => pure rest

end GtpControl
