import GtpControl.Value.AddressText

/-! # Peers as users write them: an address, with or without a port -/
namespace GtpControl

/-- A number in base sixteen after its mark, in base eight after a zero, or in base ten. -/
def hostNumeral? (text : List Char) : Option Nat :=
  let (base, digits) := match text with
    | '0' :: 'x' :: digits => (16, digits)
    | '0' :: 'X' :: digits => (16, digits)
    | '0' :: digits => if digits.isEmpty then (10, text) else (8, digits)
    | digits => (10, digits)
  if digits.isEmpty then none
  else
    digits.foldlM
      (fun n c => do
        let digit ← Text.digit? base c
        let n := n * base + digit
        if n < 0x100000000 then some n else none)
      0

/-- One to four numbers; the last one fills the octets that are left. -/
def Ipv4Address.ofNumerals? (text : String) : Option Ipv4Address := do
  let numbers ← ((text.toList.splitOn '.').map hostNumeral?).mapM id
  let leading := numbers.dropLast
  let last ← numbers.getLast?
  let width := 4 - leading.length
  if 4 < numbers.length || leading.any (255 < ·) || Nat.pow 256 width ≤ last then none
  Ipv4Address.ofOctets? (leading.map UInt8.ofNat ++ Octets.ofNat width last)

/-- Whether the address is of one link or of one node, so that the name of a link may follow it. -/
def Ipv6Address.isLocal (address : Ipv6Address) : Bool :=
  match address.octets with
  | 0xfe :: second :: _ => second &&& 0xc0 == 0x80
  | 0xff :: second :: _ => second &&& 0x0f == 1 || second &&& 0x0f == 2
  | _ => false

/-- The name of the link that every host has, to itself. It is the first link. -/
def loopbackLink : String := "lo"

/-- A link, by its number or its name. Only local addresses take a name, and only that of the
loopback link is known. -/
def linkNumber? (address : Ipv6Address) (link : String) : Option UInt32 :=
  if address.isLocal && link = loopbackLink then some 1
  else
    let number := AddressText.numeral 10 link.length 0x100000000 true
    (AddressText.whole number link).map UInt32.ofNat

namespace SocketAddress

/-- An IPv6 address, after which a percent sign and a link may follow. -/
def ofLinked? (host : String) (port : UInt16) : Option SocketAddress := do
  let text := host.toList.takeWhile (· ≠ '%')
  let address ← Ipv6Address.ofText? (String.ofList text)
  match host.toList.drop text.length with
  | [] => return { ip := .v6 address, port }
  | _ :: link =>
    let scope ← linkNumber? address (String.ofList link)
    return { ip := .v6 address, port, scope }

/-- A host that is written as an address. -/
def ofHost? (host : String) (port : UInt16) : Option SocketAddress :=
  ((Ipv4Address.ofNumerals? host).map fun address => { ip := .v4 address, port }).or
    (ofLinked? host port)

/-- An address with a port, or one without a port and perhaps in brackets. -/
def ofPeer? (defaultPort : UInt16) (peer : String) : Option SocketAddress :=
  match ofText? peer with
  | some address => some address
  | none =>
    let chars := peer.toList.reverse
    let port := (chars.takeWhile (· ≠ ':')).reverse
    let host := (chars.drop (port.length + 1)).reverse
    if chars.contains ':' && !host.contains ':' then
      (Text.unsigned? 0xffff port).bind fun port => ofHost? (String.ofList host) (.ofNat port)
    else
      let isBracket (c : Char) : Bool := c == '[' || c == ']'
      let bare := ((chars.dropWhile isBracket).reverse.dropWhile isBracket)
      ofHost? (String.ofList bare) defaultPort

end SocketAddress
end GtpControl
