import GtpControl.Octets
import GtpControl.Text.Quoted

/-! # Why a value, an element, a header or a message cannot be encoded or decoded -/
namespace GtpControl

/-- What is wrong with a value that has the right size. -/
inductive Malformation where
  | nonDigit (c : Char) (text : String)
  | apnLabel (apn : String)
  | plmn (mcc mnc : String)
  | addressSize (octets : Nat)
  | pdpAddress (pdpType : UInt8) (octets : Nat)
  | imsiTooLong (imsi : String)
  | pdnType (type : UInt8)
  | emptyExtension
  | extensionSize (octets : Nat)
  | primeFlags (flags : UInt8)
  | recordCount (count : Nat)
  | oddSequenceList (octets : Nat)
deriving DecidableEq, Repr

def Malformation.message : Malformation → String
  | .nonDigit c text => s!"non-digit {Text.quoteChar c} in {Text.quote text}"
  | .apnLabel apn => s!"invalid APN label in {Text.quote apn}"
  | .plmn mcc mnc => s!"invalid PLMN {mcc}-{mnc}"
  | .addressSize octets => s!"address of {octets} octets"
  | .pdpAddress pdpType octets =>
    s!"PDP type {hexPadded 0 pdpType.toNat} with {octets} address octets"
  | .imsiTooLong imsi => s!"IMSI {imsi} longer than 15 digits"
  | .pdnType type => s!"unsupported PDN type {type}"
  | .emptyExtension => "zero length extension header"
  | .extensionSize octets => s!"extension header content of {octets} octets"
  | .primeFlags flags =>
    s!"flags {hexPadded 2 flags.toNat} are not a GTP' header (PT = 0, spare bits 111)"
  | .recordCount count => s!"{count} data records in one packet"
  | .oddSequenceList octets => s!"odd sequence number list length {octets}"

inductive CodecError where
  | tooShort (needed available : Nat)
  | invalidLength (declared available : Nat)
  | invalidType (type : UInt8)
  | unexpectedMessage (expected got : UInt8)
  | notFound (type inst : UInt8)
  | unsupportedVersion (version : UInt8)
  | tooLarge (octets : Nat)
  | malformed (what : Malformation)
deriving DecidableEq, Repr

def CodecError.message : CodecError → String
  | .tooShort needed available => s!"Too short to parse: need {needed} bytes, have {available}"
  | .invalidLength declared available =>
    s!"Invalid length: declared {declared} bytes, {available} available"
  | .invalidType type => s!"Invalid type: {type}"
  | .unexpectedMessage expected got =>
    s!"Unexpected message type: expected {expected}, got {got}"
  | .notFound type inst => s!"IE not found: type {type}, instance {inst}"
  | .unsupportedVersion version => s!"Unsupported GTP version: {version}"
  | .tooLarge octets => s!"Message too large: {octets} bytes"
  | .malformed what => s!"Malformed value: {what.message}"

/-- The result of an encoder or decoder. -/
abbrev Coded := Except CodecError

/-- Refuses input that holds fewer octets than are read from it. -/
def ensureSize (available needed : Nat) : Coded Unit :=
  if available < needed then throw (.tooShort needed available) else pure ()

/-- The largest length a sixteen-bit length field can carry. -/
def maxLength : Nat := 65535

/-- A length field, which has sixteen bits. -/
def lengthField (length : Nat) : Coded Octets :=
  if maxLength < length then throw (.tooLarge length) else pure (Octets.ofNat 2 length)

end GtpControl
