import GtpControl.Version

/-! # Headers of GTPv2-C

Flags, type, length of what follows, an end point number if its flag is set, three octets of
sequence number, and an octet that may hold a priority. -/
namespace GtpControl

/-- Sequence numbers have twenty-four bits. -/
abbrev Sequence := Fin 0x1000000

def Sequence.ofUInt32 (n : UInt32) : Sequence := .ofNat _ n.toNat

/-- The number after the last one is zero. -/
def Sequence.next (n : Sequence) : Sequence := .ofNat _ (n.val + 1)

def V2Header.clearMarks : Fin 4 := .ofNat _ 0

structure V2Header where
  piggybacking : Bool := false
  /-- whether the last octet holds a priority -/
  prioritised : Bool := false
  /-- the two lowest flags -/
  spareMarks : Fin 4 := V2Header.clearMarks
  type : UInt8
  teid : Option UInt32
  sequence : Sequence
  /-- the last octet -/
  spare : UInt8 := 0
deriving DecidableEq, Repr

namespace V2Header

/-- Octets before the part that the length counts. -/
def fixedSize : Nat := 4

/-- Counted octets of a header, with or without an end point number. -/
def countedSize (withTeid : Bool) : Nat := if withTeid then 8 else 4

/-- The end point mark is set exactly when there is an end point number. -/
def flags (header : V2Header) : UInt8 :=
  0x40 ||| (if header.piggybacking then 0x10 else 0) ||| (if header.teid.isSome then 8 else 0)
    ||| (if header.prioritised then 4 else 0) ||| UInt8.ofNat header.spareMarks

def size (header : V2Header) : Nat := fixedSize + countedSize header.teid.isSome

/-- A header and the payload after it. -/
def parse (policy : LengthPolicy) : Octets → Coded (V2Header × Octets)
  | flags :: type :: l₁ :: l₂ :: o₁ :: o₂ :: o₃ :: o₄ :: rest => do
    if flags >>> 5 ≠ 2 then throw (.unsupportedVersion (flags >>> 5))
    let length := Octets.toNat [l₁, l₂]
    let withTeid := flags &&& 8 != 0
    let counted := countedSize withTeid
    if length < counted then throw (.tooShort (fixedSize + counted) (fixedSize + length))
    let header (teid : Option UInt32) (s₁ s₂ s₃ spare : UInt8) : V2Header := {
      piggybacking := flags &&& 0x10 != 0
      prioritised := flags &&& 4 != 0
      spareMarks := .ofNat 4 flags.toNat
      type
      teid
      sequence := .ofNat _ (Octets.toNat [s₁, s₂, s₃])
      spare }
    match withTeid, rest with
    | false, rest =>
      return (header none o₁ o₂ o₃ o₄, ← policy.payload (fixedSize + counted) (length - counted) rest)
    | true, s₁ :: s₂ :: s₃ :: spare :: rest =>
      return (header (some (Octets.uint32 [o₁, o₂, o₃, o₄])) s₁ s₂ s₃ spare,
        ← policy.payload (fixedSize + counted) (length - counted) rest)
    | true, rest => throw (.tooShort (fixedSize + counted) (8 + rest.length))
  | octets => throw (.tooShort (fixedSize + countedSize false) octets.length)

/-- The header of a message with a payload of the given size. -/
def encode (header : V2Header) (payloadSize : Nat) : Coded Octets :=
  return header.flags :: header.type :: (← lengthField (header.size - fixedSize + payloadSize))
    ++ (header.teid.map Octets.ofUInt32).getD [] ++ Octets.ofNat 3 header.sequence
    ++ [header.spare]

/-- The low twenty-four bits of a number become the sequence number. -/
def setSequence (sequence : UInt32) (header : V2Header) : V2Header :=
  { header with sequence := .ofUInt32 sequence }

def priority? (header : V2Header) : Option UInt8 :=
  if header.prioritised then some (header.spare >>> 4) else none

/-- The priority has four bits; without one the last octet is zero. -/
def setPriority (priority : Option UInt8) (header : V2Header) : V2Header :=
  { header with
    prioritised := priority.isSome
    spare := (priority.map fun (p : UInt8) => (p &&& 0x0f) <<< 4).getD 0 }

end V2Header
end GtpControl
