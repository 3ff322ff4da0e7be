import GtpControl.Version

/-! # Headers of GTP'

Flags, type, length of what follows, sequence number; the long form adds fourteen spare octets. -/
namespace GtpControl

def PrimeHeader.currentVersion : Fin 8 := .ofNat _ 2

structure PrimeHeader where
  version : Fin 8 := PrimeHeader.currentVersion
  long : Bool := false
  type : UInt8
  sequence : UInt16
deriving DecidableEq, Repr

namespace PrimeHeader

def shortSize : Nat := 6

def spareSize : Nat := 14

def size (header : PrimeHeader) : Nat := if header.long then shortSize + spareSize else shortSize

def flags (header : PrimeHeader) : UInt8 :=
  (UInt8.ofNat header.version <<< 5) ||| 0x0e ||| (if header.long then 1 else 0)

/-- A header and the payload after it. -/
def parse (policy : LengthPolicy) : Octets → Coded (PrimeHeader × Octets)
  | flags :: type :: l₁ :: l₂ :: s₁ :: s₂ :: rest => do
    if !isPrimeFlags flags then throw (.malformed (.primeFlags flags))
    let header : PrimeHeader := {
      version := .ofNat 8 (flags >>> 5).toNat
      long := flags &&& 1 != 0
      type
      sequence := Octets.uint16 [s₁, s₂] }
    ensureSize (shortSize + rest.length) header.size
    let rest := if header.long then rest.drop spareSize else rest
    return (header, ← policy.payload header.size (Octets.toNat [l₁, l₂]) rest)
  | octets => throw (.tooShort shortSize octets.length)

/-- The header of a message with a payload of the given size. -/
def encode (header : PrimeHeader) (payloadSize : Nat) : Coded Octets :=
  return header.flags :: header.type :: (← lengthField payloadSize)
    ++ Octets.ofUInt16 header.sequence
    ++ if header.long then List.replicate spareSize 0xff else []

/-- The low sixteen bits of a number become the sequence number. -/
def setSequence (sequence : UInt32) (header : PrimeHeader) : PrimeHeader :=
  { header with sequence := sequence.toUInt16 }

end PrimeHeader
end GtpControl
