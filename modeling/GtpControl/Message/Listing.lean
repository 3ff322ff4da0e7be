import GtpControl.Element.Render
import GtpControl.Message

/-! # Messages as outlines, field by field -/
namespace GtpControl
open Text (Outline)

/-- The content of a message is listed in its fields, so the payload after the header is empty. -/
def emptyPayload : String × Outline := ("payload", .atom (Text.quoteOctets []))

def ExtensionHeader.outline (extension : ExtensionHeader) : Outline :=
  .fields "ExtensionHeader" [
    ("header_type", .ofNat extension.type.toNat),
    ("content", .atom (Text.quoteOctets extension.content))]

def Header.outline (header : Header) : Outline :=
  let rest : List (String × Outline) :=
    match header with
    | .v0 h => [
      ("sequence", .ofNat h.sequence.toNat),
      ("flow_label", .ofNat h.flowLabel.toNat),
      ("sndcp_npdu_number", .ofNat h.packetNumber.toNat),
      ("tid", .ofNat h.tid.toNat)]
    | .v1 h => [
      ("teid", .ofNat h.teid.toNat),
      ("sequence", .ofNat h.sequence.toNat),
      ("npdu_number", .ofNat h.packetNumber.toNat),
      ("extension_headers", .list (h.extensions.map ExtensionHeader.outline))]
    | .v2 h => [
      ("teid", .ofOption (fun teid => .ofNat teid.toNat) h.teid),
      ("sequence", .ofNat h.sequence),
      ("spare", .ofNat h.spare.toNat)]
    | .prime h => [("sequence", .ofNat h.sequence.toNat)]
  .fields "Header" ([
    ("flags", .ofNat header.flags.toNat),
    ("message_type", .ofNat header.type.toNat)] ++ rest ++ [emptyPayload])

/-- How a listing names the version. -/
def Version.mark : Version → String
  | .v0 => "V0"
  | .v1 => "V1"
  | .v2 => "V2"
  | .prime => "Prime"

namespace Message

def fieldOutline (version : Version) (slot : Slot) (elements : List Element) : Outline :=
  if slot.repeated then .list (Element.outlines version elements)
  else .ofOption (Element.outline version) elements.head?

/-- The name of the elements without a slot. -/
def restLabel (message : Message) : String :=
  if message.kind = .generic then "ies" else "additional_ies"

def outline (message : Message) : Outline :=
  let version := message.version
  let fields := message.fields.map fun (slot, elements) =>
    (slot.field.label, fieldOutline version slot elements)
  let rest := .list (Element.outlines version message.additional)
  .apply version.mark [.apply message.kind.label [.fields message.kind.label
    ([("header", message.header.outline)] ++ fields ++ [(message.restLabel, rest)])]]

/-- The listing of a message over indented lines. -/
def listing (message : Message) : String := message.outline.layOut 0

end Message
end GtpControl
