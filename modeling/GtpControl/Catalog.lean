import GtpControl.Catalog.V0
import GtpControl.Catalog.V1
import GtpControl.Catalog.V2
import GtpControl.Catalog.Prime

/-! # What a type number means in each protocol version -/
namespace GtpControl.Version
open Catalog

def messages : Version → List MessageEntry
  | .v0 => V0.messages
  | .v1 => V1.messages
  | .v2 => V2.messages
  | .prime => Prime.messages

def elements : Version → List ElementEntry
  | .v0 => V0.elements
  | .v1 => V1.elements
  | .v2 => V2.elements
  | .prime => Prime.elements

def messageName (version : Version) (type : UInt8) : String :=
  ((version.messages.find? (·.type == type)).map (·.name)).getD "Unknown"

/-- Whether a message of this type answers another one. -/
def isReply (version : Version) (type : UInt8) : Bool :=
  version.messages.any fun entry => entry.type == type && entry.isReply

def elementName (version : Version) (type : UInt8) : String :=
  ((version.elements.find? (·.type == type)).map (·.name)).getD "Undefined"

/-- Only GTPv2 elements carry an instance. -/
def hasInstance (version : Version) : Bool := version == .v2

/-- Elements without a length field have types below 128, and do not occur in GTPv2. -/
def hasLength (version : Version) (type : UInt8) : Bool := version == .v2 || 128 ≤ type

/-- The form of an element; a type that should have a fixed width but is not known has none. -/
def form? (version : Version) (type : UInt8) : Option Form :=
  match version.elements.find? (·.type == type) with
  | some entry => some entry.form
  | none => if version.hasLength type then some .sized else none

def isGrouped (version : Version) (type : UInt8) : Bool := version.form? type == some .grouped

/-- Width of an element without a length field. -/
def fixedWidth? (version : Version) (type : UInt8) : Option Nat :=
  match version.form? type with
  | some (.fixed width) => some width
  | _ => none

/-- The instance as an element of this version holds it: four bits, or none at all. -/
def maskInstance (version : Version) (inst : UInt8) : UInt8 :=
  if version.hasInstance then inst &&& 0x0f else 0

/-- Whether a cause grants the request. -/
def isAccepted (version : Version) (cause : UInt8) : Bool :=
  match version with
  | .v2 => 16 ≤ cause && cause < 64
  | _ => 128 ≤ cause && cause ≤ 191

end GtpControl.Version
