import GtpControl.CodecError
import GtpControl.Value.Address

/-! # Address values of four or sixteen octets, and end user addresses around them -/
namespace GtpControl

/-- An address of four or sixteen octets. -/
def IpAddress.decode (octets : Octets) : Coded IpAddress :=
  match Ipv4Address.ofOctets? octets, Ipv6Address.ofOctets? octets with
  | some short, _ => pure (.v4 short)
  | none, some long => pure (.v6 long)
  | none, none => do
    ensureSize octets.length 4
    throw (.malformed (.addressSize octets.length))

namespace EndUserAddress

/-- The organisation octet of addresses of the Internet. -/
def organisation : UInt8 := 0xf1

def ipv4Type : UInt8 := 0x21

def ipv6Type : UInt8 := 0x57

def dualType : UInt8 := 0x8d

/-- Without an address, one of the given type is asked for. -/
def encode (address : Option IpAddress) (pdpType : UInt8) : Octets :=
  match address with
  | some (.v4 v4) => organisation :: ipv4Type :: v4.octets
  | some (.v6 v6) => organisation :: ipv6Type :: v6.octets
  | none => [organisation, pdpType]

/-- No octets after the type mean no address; of two addresses the IPv4 one is taken. -/
def decode : Octets → Coded (Option IpAddress)
  | _ :: pdpType :: address =>
    if address.isEmpty then pure none
    else if (pdpType = ipv4Type ∧ address.length = 4) ∨ (pdpType = ipv6Type ∧ address.length = 16) then
      some <$> IpAddress.decode address
    else if pdpType = dualType ∧ address.length = 20 then some <$> IpAddress.decode (address.take 4)
    else throw (.malformed (.pdpAddress pdpType address.length))
  | octets => throw (.tooShort 2 octets.length)

end EndUserAddress
end GtpControl
