import GtpControl.Text.Numeral
import GtpControl.Value.Address

/-! # Reading addresses: each reader takes the start of a text and returns what follows -/
namespace GtpControl.AddressText

/-- The longest run of digits: its value, its size and what follows. -/
def digits (base : Nat) : List Char → Nat → Nat → Nat × Nat × List Char
  | [], value, count => (value, count, [])
  | c :: rest, value, count =>
    match Text.digit? base c with
    | some d => digits base rest (value * base + d) (count + 1)
    | none => (value, count, c :: rest)

/-- A numeral of at least one and at most `most` digits below `limit`. -/
def numeral (base most limit : Nat) (leadingZeros : Bool) (text : List Char) :
    Option (Nat × List Char) :=
  let (value, count, rest) := digits base text 0 0
  let zeroLed := text.head? == some '0' && 1 < count
  if count = 0 ∨ most < count ∨ limit ≤ value ∨ (zeroLed && !leadingZeros) then none
  else some (value, rest)

def skip (c : Char) : List Char → Option (List Char)
  | [] => none
  | d :: rest => if c = d then some rest else none

/-- Dotted decimal, no leading zeros. -/
def ipv4 (text : List Char) : Option (Ipv4Address × List Char) := do
  let part := numeral 10 3 256 false
  let (a, text) ← part text
  let (b, text) ← part (← skip '.' text)
  let (c, text) ← part (← skip '.' text)
  let (d, text) ← part (← skip '.' text)
  return (⟨.ofNat a, .ofNat b, .ofNat c, .ofNat d⟩, text)

/-- Up to `room` groups separated by colons, of which a dotted IPv4 address may be the last two.
The Boolean says whether it was; `first` whether no colon goes before the next group. -/
def groups : (room : Nat) → (first : Bool) → List Char → List Nat × Bool × List Char
  | 0, _, text => ([], false, text)
  | room + 1, first, text =>
    let body? := if first then some text else skip ':' text
    let dotted? := if room = 0 then none else body?.bind ipv4
    match dotted? with
    | some (v4, rest) => ([Octets.toNat [v4.a, v4.b], Octets.toNat [v4.c, v4.d]], true, rest)
    | none =>
      match body?.bind (numeral 16 4 0x10000 true) with
      | none => ([], false, text)
      | some (group, rest) =>
        let (more, dotted, rest) := groups room false rest
        (group :: more, dotted, rest)

def ofGroups (groups : List Nat) : Option Ipv6Address :=
  Ipv6Address.ofOctets? (groups.flatMap (Octets.ofNat 2))

/-- Eight groups, or fewer around one `::` that stands for at least one zero group. -/
def ipv6 (text : List Char) : Option (Ipv6Address × List Char) := do
  let (front, dotted, rest) := groups 8 true text
  if front.length = 8 then return (← ofGroups front, rest)
  if dotted then none
  let rest ← skip ':' (← skip ':' rest)
  let (back, _, rest) := groups (7 - front.length) true rest
  let zeros := List.replicate (8 - front.length - back.length) 0
  return (← ofGroups (front ++ zeros ++ back), rest)

def ip (text : List Char) : Option (IpAddress × List Char) :=
  match ipv4 text with
  | some (address, rest) => some (.v4 address, rest)
  | none => (ipv6 text).map fun (address, rest) => (.v6 address, rest)

/-- A reading of a whole text. -/
def whole {α : Type} (reader : List Char → Option (α × List Char)) (text : String) : Option α :=
  match reader text.toList with
  | some (value, []) => some value
  | _ => none

def port (text : List Char) : Option (UInt16 × List Char) := do
  let (n, rest) ← numeral 10 text.length 0x10000 true (← skip ':' text)
  return (.ofNat n, rest)

/-- The scope of a bracketed address, zero when none is written. -/
def scope (text : List Char) : Option (UInt32 × List Char) :=
  match skip '%' text with
  | none => some (0, text)
  | some rest =>
    (numeral 10 rest.length 0x100000000 true rest).map fun (n, rest) => (.ofNat n, rest)

def socketV4 (text : List Char) : Option (SocketAddress × List Char) := do
  let (address, rest) ← ipv4 text
  let (port, rest) ← port rest
  return ({ ip := .v4 address, port }, rest)

def socketV6 (text : List Char) : Option (SocketAddress × List Char) := do
  let (address, rest) ← ipv6 (← skip '[' text)
  let (scope, rest) ← scope rest
  let (port, rest) ← port (← skip ']' rest)
  return ({ ip := .v6 address, port, scope }, rest)

end GtpControl.AddressText

namespace GtpControl

def Ipv4Address.ofText? (text : String) : Option Ipv4Address :=
  AddressText.whole AddressText.ipv4 text

def Ipv6Address.ofText? (text : String) : Option Ipv6Address :=
  AddressText.whole AddressText.ipv6 text

def IpAddress.ofText? (text : String) : Option IpAddress :=
  AddressText.whole AddressText.ip text

def SocketAddress.ofText? (text : String) : Option SocketAddress :=
  (AddressText.whole AddressText.socketV4 text).or (AddressText.whole AddressText.socketV6 text)

end GtpControl
