import GtpControl.Element.Decode
import GtpControl.Value.Tbcd

/-! # Reading values out of payloads

A reader names the type it is for and fails on any other one. It takes the octets it needs off the
start of the payload and says how many it needs when there are fewer. -/
namespace GtpControl.Element

/-- The payload of an element of the expected type. -/
def expect (type : UInt8) (element : Element) : Coded Octets :=
  if element.type = type then pure element.payload else throw (.invalidType element.type)

def readUInt8 (type : UInt8) (element : Element) : Coded UInt8 := do
  match ← element.expect type with
  | o :: _ => pure o
  | [] => throw (.tooShort 1 0)

def readUInt16 (type : UInt8) (element : Element) : Coded UInt16 := do
  match ← element.expect type with
  | a :: b :: _ => pure (Octets.uint16 [a, b])
  | payload => throw (.tooShort 2 payload.length)

def readUInt32 (type : UInt8) (element : Element) : Coded UInt32 := do
  match ← element.expect type with
  | a :: b :: c :: d :: _ => pure (Octets.uint32 [a, b, c, d])
  | payload => throw (.tooShort 4 payload.length)

/-- Digits in a payload of at least `size` octets. -/
def readDigits (type : UInt8) (size : Nat) (element : Element) : Coded String := do
  let payload ← element.expect type
  ensureSize payload.length size
  return Tbcd.decode payload

/-- An identifier of two octets, and the value after it. -/
def readExtension (type : UInt8) (element : Element) : Coded (UInt16 × Octets) := do
  match ← element.expect type with
  | a :: b :: value => pure (Octets.uint16 [a, b], value)
  | payload => throw (.tooShort 2 payload.length)

/-- A subscriber identity filled up to eight octets. -/
def paddedImsi (imsi : String) : Coded Octets := do
  let digits ← Tbcd.encode imsi
  if 8 < digits.length then throw (.malformed (.imsiTooLong imsi))
  return digits ++ List.replicate (8 - digits.length) 0xff

/-- International number, numbering plan of telephony. -/
def internationalNumber : UInt8 := 0x91

/-- A subscriber number after an octet that says what kind of number it is. -/
def readMsisdn (type : UInt8) (element : Element) : Coded String := do
  match ← element.expect type with
  | _ :: o :: digits => pure (Tbcd.decode (o :: digits))
  | payload => throw (.tooShort 2 payload.length)

end GtpControl.Element
