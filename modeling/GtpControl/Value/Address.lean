import GtpControl.Octets

/-! # Internet addresses, as octets and as text -/
namespace GtpControl

structure Ipv4Address where
  a : UInt8
  b : UInt8
  c : UInt8
  d : UInt8
deriving DecidableEq, Repr, Inhabited

structure Ipv6Address where
  octets : Octets
  size_eq : octets.length = 16
deriving DecidableEq, Repr

inductive IpAddress where
  | v4 (address : Ipv4Address)
  | v6 (address : Ipv6Address)
deriving DecidableEq, Repr, Inhabited

/-- An address with a port; the scope tells links apart for link-local addresses. -/
structure SocketAddress where
  ip : IpAddress
  port : UInt16
  scope : UInt32 := 0
deriving DecidableEq, Repr, Inhabited

namespace Ipv4Address

def octets (address : Ipv4Address) : Octets := [address.a, address.b, address.c, address.d]

def ofOctets? : Octets → Option Ipv4Address
  | [a, b, c, d] => some ⟨a, b, c, d⟩
  | _ => none

def unspecified : Ipv4Address := ⟨0, 0, 0, 0⟩

def toText (address : Ipv4Address) : String :=
  s!"{address.a}.{address.b}.{address.c}.{address.d}"

end Ipv4Address

namespace Ipv6Address

def ofOctets? (octets : Octets) : Option Ipv6Address :=
  if size : octets.length = 16 then some ⟨octets, size⟩ else none

def unspecified : Ipv6Address := ⟨List.replicate 16 0, by simp⟩

instance : Inhabited Ipv6Address := ⟨unspecified⟩

/-- The eight sixteen-bit groups of an address. -/
def groups (address : Ipv6Address) : List Nat := pairs address.octets
where
  pairs : Octets → List Nat
    | high :: low :: rest => Octets.toNat [high, low] :: pairs rest
    | _ => []

/-- The IPv4 address that an IPv4-mapped address stands for. -/
def mapped? (address : Ipv6Address) : Option Ipv4Address :=
  if address.octets.take 12 = List.replicate 10 0 ++ [0xff, 0xff] then
    Ipv4Address.ofOctets? (address.octets.drop 12)
  else none

/-- How many zero groups a list of groups starts with. -/
def zeroRun : List Nat → Nat
  | 0 :: rest => zeroRun rest + 1
  | _ => 0

/-- Start and length of the longest run of zero groups, the first of equal ones. -/
def longestZeroRun (groups : List Nat) : Nat × Nat :=
  (List.range groups.length).foldl
    (fun best start =>
      let run := zeroRun (groups.drop start)
      if best.2 < run then (start, run) else best)
    (0, 0)

def joinGroups (groups : List Nat) : String := ":".intercalate (groups.map hexNumeral)

/-- The longest run of two or more zero groups is left out. -/
def toText (address : Ipv6Address) : String :=
  match address.mapped? with
  | some v4 => s!"::ffff:{v4.toText}"
  | none =>
    let groups := address.groups
    let (start, run) := longestZeroRun groups
    if 1 < run then joinGroups (groups.take start) ++ "::" ++ joinGroups (groups.drop (start + run))
    else joinGroups groups

end Ipv6Address

namespace IpAddress

def octets : IpAddress → Octets
  | .v4 address => address.octets
  | .v6 address => address.octets

def isUnspecified : IpAddress → Bool
  | .v4 address => address == .unspecified
  | .v6 address => address == .unspecified

def toText : IpAddress → String
  | .v4 address => address.toText
  | .v6 address => address.toText

end IpAddress

def SocketAddress.toText (address : SocketAddress) : String :=
  match address.ip with
  | .v4 ip => s!"{ip.toText}:{address.port}"
  | .v6 ip =>
    let scope := if address.scope = 0 then "" else s!"%{address.scope}"
    s!"[{ip.toText}{scope}]:{address.port}"

end GtpControl
