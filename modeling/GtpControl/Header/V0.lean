import GtpControl.Value.TunnelId
import GtpControl.Version

/-! # Headers of GTPv0

Twenty octets: flags, type, length of what follows, sequence number, flow label, packet number of
the radio layer, three spare octets, tunnel identifier. -/
namespace GtpControl

/-- The protocol type mark and the spare bits are set, the packet number mark is not. -/
def V0Header.usualMarks : Fin 32 := .ofNat _ 0x1e

structure V0Header where
  /-- protocol type, spare bits and packet number mark, below the version -/
  marks : Fin 32 := V0Header.usualMarks
  type : UInt8
  sequence : UInt16
  flowLabel : UInt16
  packetNumber : UInt8 := 0xff
  tid : UInt64
deriving DecidableEq, Repr

namespace V0Header

def size : Nat := 20

def flags (header : V0Header) : UInt8 := .ofNat header.marks

/-- A header and the payload after it. -/
def parse (policy : LengthPolicy) : Octets → Coded (V0Header × Octets)
  | flags :: type :: l₁ :: l₂ :: s₁ :: s₂ :: f₁ :: f₂ :: packetNumber :: _ :: _ :: _
      :: t₁ :: t₂ :: t₃ :: t₄ :: t₅ :: t₆ :: t₇ :: t₈ :: rest => do
    if flags >>> 5 ≠ 0 then throw (.unsupportedVersion (flags >>> 5))
    let payload ← policy.payload size (Octets.toNat [l₁, l₂]) rest
    let header : V0Header := {
      marks := .ofNat 32 flags.toNat
      type
      sequence := Octets.uint16 [s₁, s₂]
      flowLabel := Octets.uint16 [f₁, f₂]
      packetNumber
      tid := Octets.uint64 [t₁, t₂, t₃, t₄, t₅, t₆, t₇, t₈] }
    return (header, payload)
  | octets => throw (.tooShort size octets.length)

/-- The header of a message with a payload of the given size. -/
def encode (header : V0Header) (payloadSize : Nat) : Coded Octets :=
  return header.flags :: header.type :: (← lengthField payloadSize)
    ++ Octets.ofUInt16 header.sequence ++ Octets.ofUInt16 header.flowLabel
    ++ [header.packetNumber, 0xff, 0xff, 0xff] ++ Octets.ofUInt64 header.tid

/-- The low sixteen bits of a number become the sequence number. -/
def setSequence (sequence : UInt32) (header : V0Header) : V0Header :=
  { header with sequence := sequence.toUInt16 }

end V0Header
end GtpControl
