import GtpControl.Element.Value
import GtpControl.Header
import GtpControl.Message.Layout

/-! # Messages: a header, elements in the slots of the message's kind, and other elements -/
namespace GtpControl

structure Message where
  header : Header
  kind : Kind
  fields : List (Slot × List Element)
  additional : List Element
deriving DecidableEq, Repr

namespace Message

/-- Slots elements into a message of the given kind. -/
def ofElements (header : Header) (kind : Kind) (elements : List Element) : Message :=
  let (fields, additional) := Slot.takeAll (header.version.layout kind) elements
  { header, kind, fields, additional }

/-- A message with a header of its own. Echoes concern no tunnel, so they have neither a label nor a
tunnel identifier, and in GTPv2 no end point number. -/
def make (version : Version) (kind : Kind) (values : Header.Values) (elements : List Element) :
    Message :=
  let values : Header.Values :=
    match kind with
    | .echoRequest | .echoResponse => { sequence := values.sequence }
    | _ => { values with teid := some (values.teid.getD 0) }
  ofElements (Header.make version (kind.type?.getD 0) values) kind elements

/-- Adds one more element. -/
def put (element : Element) (message : Message) : Message :=
  match Slot.put? element message.fields with
  | some fields => { message with fields }
  | none => { message with additional := message.additional ++ [element] }

def version (message : Message) : Version := message.header.version

def type (message : Message) : UInt8 := message.header.type

def typeName (message : Message) : String := message.version.messageName message.type

def sequence (message : Message) : UInt32 := message.header.sequence

def setSequence (sequence : UInt32) (message : Message) : Message :=
  { message with header := message.header.setSequence sequence }

def teid? (message : Message) : Option UInt32 := message.header.teid?

/-- Whether the message answers another one. -/
def isReply (message : Message) : Bool := message.version.isReply message.type

/-- All elements in the order in which they are sent. -/
def elements (message : Message) : List Element :=
  message.fields.flatMap (·.2) ++ message.additional

def payloadSize (message : Message) : Nat :=
  total (message.elements.map (Element.encodedSize message.version))

/-- Octets of the message. -/
def size (message : Message) : Nat := message.header.size + message.payloadSize

def encode (message : Message) : Coded Octets := do
  let header ← message.header.encode message.payloadSize
  return header ++ (← message.elements.mapM (Element.encode message.version)).flatten

/-- The elements of a field. -/
def field (field : Field) (message : Message) : List Element :=
  (message.fields.filter (·.1.field == field)).flatMap (·.2)

/-- The element of a field that has room for one. -/
def field? (field : Field) (message : Message) : Option Element := (message.field field).head?

/-- The first element of exactly this type and instance that has no slot. -/
def find (type inst : UInt8) (message : Message) : Coded Element :=
  match message.additional.find? fun element => element.type == type && element.inst == inst with
  | some element => pure element
  | none => throw (.notFound type inst)

def causeType : Version → UInt8
  | .v0 => Catalog.V0.Code.cause
  | .v1 => Catalog.V1.Code.cause
  | .v2 => Catalog.V2.Code.cause
  | .prime => Catalog.Prime.Code.cause

/-- The element with the cause of a response. A request to delete may hold a cause too, which is its
reason and not a result. -/
def causeElement? (message : Message) : Option Element :=
  match message.kind with
  | .generic => (message.find (causeType message.version) 0).toOption
  | .deleteSessionRequest | .deletePdpContextRequest => none
  | _ => message.field? .cause

/-- The result that a response reports, if it is legible. -/
def cause? (message : Message) : Option UInt8 :=
  message.causeElement?.bind fun element => (element.readUInt8 (causeType message.version)).toOption

/-- The header of a datagram and the elements after it. -/
def parseParts (version : Version) (policy : LengthPolicy) (octets : Octets) :
    Coded (Header × List Element) := do
  let (header, payload) ← Header.parse version policy octets
  return (header, ← Element.decodeAll version payload)

/-- A message of the given version; its type decides the kind. -/
def parse (version : Version) (policy : LengthPolicy) (octets : Octets) : Coded Message := do
  let (header, elements) ← parseParts version policy octets
  return ofElements header (version.kindOf header.type) elements

/-- A message of the given version and kind. Its type is looked at last. -/
def parseAs (version : Version) (kind : Kind) (policy : LengthPolicy) (octets : Octets) :
    Coded Message := do
  let (header, elements) ← parseParts version policy octets
  if let some expected := kind.type? then
    if header.type ≠ expected then throw (.unexpectedMessage expected header.type)
  return ofElements header kind elements

/-- A message of the version that its first octet names. -/
def parseAny (policy : LengthPolicy) (octets : Octets) : Coded Message := do
  parse (← Version.detect octets) policy octets

end Message
end GtpControl
