import GtpControl.Message.Layout.Prime
import GtpControl.Message.Layout.V0
import GtpControl.Message.Layout.V1
import GtpControl.Message.Layout.V2

/-! # Which messages of a version have slots, and which slots they have -/
namespace GtpControl.Version

def layouts : Version → List (Kind × List Slot)
  | .v0 => Layout.V0.layouts
  | .v1 => Layout.V1.layouts
  | .v2 => Layout.V2.layouts
  | .prime => Layout.Prime.layouts

/-- The slots of a message; a generic one has none. -/
def layout (version : Version) (kind : Kind) : List Slot :=
  (version.layouts.lookup kind).getD []

/-- The kinds of message with slots. -/
def kinds (version : Version) : List Kind := version.layouts.map (·.1)

/-- The kind of a message of this type. -/
def kindOf (version : Version) (type : UInt8) : Kind :=
  (version.kinds.find? (·.type? == some type)).getD .generic

end GtpControl.Version
