import GtpControl.Text.Numeral
import GtpControl.Text.Utf8

/-! # Datagrams as users type them

Two digits stand for an octet, between which there may be blanks and colons. The text is taken apart
as octets. -/
namespace GtpControl.HexText

inductive Fault where
  | oddDigits
  /-- the second octet of a pair, counted from zero, or the whole pair starts a longer character -/
  | cutCharacter (index : Nat)
  /-- an octet of a pair starts no character -/
  | strayOctet (index : Nat)
  | nonDigit
deriving DecidableEq, Repr

def Fault.message : Fault → String
  | .oddDigits => "Odd number of hex digits"
  | .cutCharacter index => s!"incomplete utf-8 byte sequence from index {index}"
  | .strayOctet index => s!"invalid utf-8 sequence of 1 bytes from index {index}"
  | .nonDigit => "invalid digit found in string"

/-- Blanks and colons. -/
def isFiller (o : UInt8) : Bool := [0x09, 0x0a, 0x0c, 0x0d, 0x20, 0x3a].contains o

def plus : UInt8 := 0x2b

def digit? (o : UInt8) : Option Nat := Text.digit? 16 (Char.ofNat o.toNat)

/-- The octet that two digits denote. A plus sign may be in the place of the first one. -/
def digits? (first second : UInt8) : Option UInt8 := do
  let high ← if first = plus then pure 0 else digit? first
  return .ofNat (high * 16 + (← digit? second))

/-- What a pair denotes. A pair that is no text is told from one that is no number. -/
def pair (first second : UInt8) : Except Fault UInt8 :=
  match Text.continuations first with
  | none => throw (.strayOctet 0)
  | some (0, _) =>
    match Text.continuations second with
    | none => throw (.strayOctet 1)
    | some (0, _) => (digits? first second).elim (throw .nonDigit) pure
    | some (_ + 1, _) => throw (.cutCharacter 1)
  | some (more + 1, low, high) =>
    if Text.isContinuation low high second then
      throw (if more = 0 then .nonDigit else .cutCharacter 0)
    else throw (.strayOctet 0)

def pairs : Octets → Except Fault Octets
  | first :: second :: rest => return (← pair first second) :: (← pairs rest)
  | _ => return []

def decode (text : String) : Except Fault Octets :=
  let octets := (Text.utf8 text.toList).filter (!isFiller ·)
  if octets.length % 2 = 0 then pairs octets else throw .oddDigits

end GtpControl.HexText
