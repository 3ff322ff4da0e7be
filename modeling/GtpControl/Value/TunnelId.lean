import GtpControl.Value.Tbcd

/-! # Tunnel identifiers of GTPv0: a subscriber and an access point in sixteen nibbles -/
namespace GtpControl.TunnelId

def size : Nat := 8

/-- Sets the high nibble of the last octet. -/
def setLastNibble (nibble : Nat) (octets : Octets) : Octets :=
  octets.modify (octets.length - 1) fun o => .ofNat (nibble % 16 * 16 + o.toNat % 16)

/-- At most fifteen digits, then filler, then the access point in the last nibble. -/
def encode (imsi : String) (nsapi : UInt8) : Coded UInt64 := do
  let digits ← Tbcd.encode imsi
  if size < digits.length ∨ 15 < imsi.utf8ByteSize then throw (.malformed (.imsiTooLong imsi))
  let filled := digits ++ List.replicate (size - digits.length) 0xff
  return Octets.uint64 (setLastNibble nsapi.toNat filled)

/-- Subscriber and access point of a tunnel identifier. -/
def parts (tid : UInt64) : String × Nat :=
  let octets := Octets.ofUInt64 tid
  (Tbcd.decode (setLastNibble Tbcd.filler octets), (octets.getLastD 0).toNat / 16)

end GtpControl.TunnelId
