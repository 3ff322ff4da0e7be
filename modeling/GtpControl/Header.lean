import GtpControl.Header.V0
import GtpControl.Header.V1
import GtpControl.Header.V2
import GtpControl.Header.Prime

/-! # Headers of any version -/
namespace GtpControl

inductive Header where
  | v0 (header : V0Header)
  | v1 (header : V1Header)
  | v2 (header : V2Header)
  | prime (header : PrimeHeader)
deriving DecidableEq, Repr

namespace Header

def version : Header → Version
  | .v0 _ => .v0
  | .v1 _ => .v1
  | .v2 _ => .v2
  | .prime _ => .prime

def type : Header → UInt8
  | .v0 h => h.type
  | .v1 h => h.type
  | .v2 h => h.type
  | .prime h => h.type

def flags : Header → UInt8
  | .v0 h => h.flags
  | .v1 h => h.flags
  | .v2 h => h.flags
  | .prime h => h.flags

def sequence : Header → UInt32
  | .v0 h => h.sequence.toUInt32
  | .v1 h => h.sequence.toUInt32
  | .v2 h => .ofNat h.sequence
  | .prime h => h.sequence.toUInt32

/-- The number is cut to the width that the header has for it. -/
def setSequence (sequence : UInt32) : Header → Header
  | .v0 h => .v0 (h.setSequence sequence)
  | .v1 h => .v1 (h.setSequence sequence)
  | .v2 h => .v2 (h.setSequence sequence)
  | .prime h => .prime (h.setSequence sequence)

/-- The tunnel end point number, in versions that have one. -/
def teid? : Header → Option UInt32
  | .v1 h => some h.teid
  | .v2 h => h.teid
  | .v0 _ | .prime _ => none

/-- Octets of the header. -/
def size : Header → Nat
  | .v0 _ => V0Header.size
  | .v1 h => h.size
  | .v2 h => h.size
  | .prime h => h.size

/-- The header of a message with a payload of the given size. -/
def encode (payloadSize : Nat) : Header → Coded Octets
  | .v0 h => h.encode payloadSize
  | .v1 h => h.encode payloadSize
  | .v2 h => h.encode payloadSize
  | .prime h => h.encode payloadSize

/-- A header of the given version, and the payload after it. -/
def parse (version : Version) (policy : LengthPolicy) (octets : Octets) : Coded (Header × Octets) :=
  match version with
  | .v0 => do let (h, payload) ← V0Header.parse policy octets; return (.v0 h, payload)
  | .v1 => do let (h, payload) ← V1Header.parse policy octets; return (.v1 h, payload)
  | .v2 => do let (h, payload) ← V2Header.parse policy octets; return (.v2 h, payload)
  | .prime => do let (h, payload) ← PrimeHeader.parse policy octets; return (.prime h, payload)

/-- The header of a message without content: a version's own fields are zero, except that a GTPv2
header names end point zero. -/
def blank : Version → Header
  | .v0 => .v0 { type := 0, sequence := 0, flowLabel := 0, tid := 0 }
  | .v1 => .v1 { type := 0, teid := 0, sequence := 0 }
  | .v2 => .v2 { type := 0, teid := some 0, sequence := .ofUInt32 0 }
  | .prime => .prime { type := 0, sequence := 0 }

/-- What a sender says of a message besides its type; a header takes what its version has. -/
structure Values where
  sequence : UInt32 := 0
  teid : Option UInt32 := none
  flowLabel : UInt16 := 0
  tid : UInt64 := 0

def make (version : Version) (type : UInt8) (values : Values) : Header :=
  match version with
  | .v0 => .v0 {
      type, sequence := values.sequence.toUInt16, flowLabel := values.flowLabel, tid := values.tid }
  | .v1 => .v1 { type, teid := values.teid.getD 0, sequence := values.sequence.toUInt16 }
  | .v2 => .v2 { type, teid := values.teid, sequence := .ofUInt32 values.sequence }
  | .prime => .prime { type, sequence := values.sequence.toUInt16 }

end Header
end GtpControl
