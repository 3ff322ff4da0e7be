import GtpControl.Version

/-! # Headers of GTPv1-C

Flags, type, length of what follows the end point number, end point number. Any of three flags adds
a block of sequence number, packet number and type of the first extension header, and the extension
headers themselves; the length counts them. -/
namespace GtpControl

/-- An entry of the chain of extension headers. -/
structure ExtensionHeader where
  type : UInt8
  content : Octets
deriving DecidableEq, Repr

namespace ExtensionHeader

/-- Octets of an extension header with its length and the type of the next one. -/
def size (extension : ExtensionHeader) : Nat := extension.content.length + 2

/-- The size is a multiple of four, and is counted in fours by one octet. -/
def make (type : UInt8) (content : Octets) : Coded ExtensionHeader :=
  if (content.length + 2) % 4 ≠ 0 ∨ 255 < (content.length + 2) / 4 then
    throw (.malformed (.extensionSize content.length))
  else pure ⟨type, content⟩

/-- A chain from the octet that names the type of its first entry to the zero that ends it. -/
def encodeChain : List ExtensionHeader → Octets
  | [] => [0]
  | extension :: rest =>
    extension.type :: .ofNat (extension.size / 4) :: extension.content ++ encodeChain rest

/-- Reads the entries after an octet that named the type of the first one. `position` octets of the
datagram go before them. -/
def decodeChain (next : UInt8) (position : Nat) (octets : Octets) :
    Coded (List ExtensionHeader × Octets) :=
  if next = 0 then pure ([], octets)
  else
    match octets with
    | [] => throw (.tooShort (position + 1) position)
    | units :: rest =>
      if units = 0 then throw (.malformed .emptyExtension)
      else
        match h : Octets.split? (4 * units.toNat - 2) rest with
        | some (content, following :: more) => do
          have : more.length < rest.length := by
            rw [(Octets.split?_eq_some.1 h).1, List.length_append, List.length_cons]; omega
          let (extensions, payload) ← decodeChain following (position + 4 * units.toNat) more
          return (⟨next, content⟩ :: extensions, payload)
        | _ => throw (.tooShort (position + 4 * units.toNat) (position + 1 + rest.length))
termination_by octets.length
decreasing_by simp only [List.length_cons]; omega

end ExtensionHeader

structure V1Header where
  /-- set for this protocol, clear for GTP' -/
  protocolType : Bool := true
  spareMark : Bool := false
  extended : Bool := false
  sequenced : Bool := true
  numbered : Bool := false
  type : UInt8
  teid : UInt32
  sequence : UInt16
  packetNumber : UInt8 := 0
  extensions : List ExtensionHeader := []
deriving DecidableEq, Repr

namespace V1Header

def fixedSize : Nat := 8

def optionalSize : Nat := 4

def flags (header : V1Header) : UInt8 :=
  0x20 ||| (if header.protocolType then 0x10 else 0) ||| (if header.spareMark then 8 else 0)
    ||| (if header.extended then 4 else 0) ||| (if header.sequenced then 2 else 0)
    ||| (if header.numbered then 1 else 0)

/-- Whether the block after the end point number is there. -/
def hasOptional (header : V1Header) : Bool :=
  header.extended || header.sequenced || header.numbered

/-- Octets of the header. -/
def size (header : V1Header) : Nat :=
  if header.hasOptional then
    fixedSize + optionalSize + total (header.extensions.map ExtensionHeader.size)
  else fixedSize

/-- Reads the optional block and the extension headers off the part that the length counts. -/
def parseOptional (header : V1Header) : Octets → Coded (V1Header × Octets)
  | s₁ :: s₂ :: packetNumber :: next :: rest => do
    let next := if header.extended then next else 0
    let (extensions, payload) ←
      ExtensionHeader.decodeChain next (fixedSize + optionalSize) rest
    return ({ header with sequence := Octets.uint16 [s₁, s₂], packetNumber, extensions }, payload)
  | octets => throw (.tooShort (fixedSize + optionalSize) (fixedSize + octets.length))

/-- A header and the payload after it. -/
def parse (policy : LengthPolicy) : Octets → Coded (V1Header × Octets)
  | flags :: type :: l₁ :: l₂ :: t₁ :: t₂ :: t₃ :: t₄ :: rest => do
    if flags >>> 5 ≠ 1 then throw (.unsupportedVersion (flags >>> 5))
    let header : V1Header := {
      protocolType := flags &&& 0x10 != 0
      spareMark := flags &&& 8 != 0
      extended := flags &&& 4 != 0
      sequenced := flags &&& 2 != 0
      numbered := flags &&& 1 != 0
      type
      teid := Octets.uint32 [t₁, t₂, t₃, t₄]
      sequence := 0 }
    let length := Octets.toNat [l₁, l₂]
    let mandatory := if header.hasOptional then optionalSize else 0
    if length < mandatory then throw (.tooShort (fixedSize + mandatory) (fixedSize + length))
    ensureSize (fixedSize + rest.length) (fixedSize + mandatory)
    let counted ← policy.payload fixedSize length rest
    if header.hasOptional then header.parseOptional counted else return (header, counted)
  | octets => throw (.tooShort fixedSize octets.length)

/-- The header of a message with a payload of the given size. -/
def encode (header : V1Header) (payloadSize : Nat) : Coded Octets :=
  return header.flags :: header.type :: (← lengthField (header.size - fixedSize + payloadSize))
    ++ Octets.ofUInt32 header.teid
    ++ if header.hasOptional then
        Octets.ofUInt16 header.sequence ++ header.packetNumber
          :: ExtensionHeader.encodeChain header.extensions
      else []

/-- The low sixteen bits of a number become the sequence number, which from then on is sent. -/
def setSequence (sequence : UInt32) (header : V1Header) : V1Header :=
  { header with sequenced := true, sequence := sequence.toUInt16 }

def packetNumber? (header : V1Header) : Option UInt8 :=
  if header.numbered then some header.packetNumber else none

def setPacketNumber (number : Option UInt8) (header : V1Header) : V1Header :=
  { header with numbered := number.isSome, packetNumber := number.getD 0 }

def setExtensions (extensions : List ExtensionHeader) (header : V1Header) : V1Header :=
  { header with extended := !extensions.isEmpty, extensions }

end V1Header
end GtpControl
