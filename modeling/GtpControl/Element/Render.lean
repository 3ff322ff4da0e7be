import GtpControl.Element.Basic
import GtpControl.Text.Outline
import GtpControl.Text.Quoted

/-! # Elements as text: on one line, and as outlines -/
namespace GtpControl.Element

mutual

/-- The element and its children on one line. -/
def toText (version : Version) : Element → String
  | ⟨type, inst, payload, children⟩ =>
    let inst := if version.hasInstance then s!", Instance: {hexPadded 0 inst.toNat}" else ""
    let content :=
      if version.isGrouped type then
        ", ChildIEs: [" ++ ", ".intercalate (toTexts version children) ++ "]"
      else
        ", Payload: [" ++ ", ".intercalate (payload.map fun o => Octets.toHex [o]) ++ "]"
    "\x7b" ++ version.elementName type ++ ": \x7bType: " ++ toString type ++ ", Length: "
      ++ toString payload.length ++ inst ++ content ++ "\x7d\x7d"

def toTexts (version : Version) : List Element → List String
  | [] => []
  | element :: rest => toText version element :: toTexts version rest

end

mutual

def outline (version : Version) : Element → Text.Outline
  | ⟨type, inst, payload, children⟩ =>
    let inst := if version.hasInstance then [("instance", .ofNat inst.toNat)] else []
    let content :=
      if version.isGrouped type then ("children", .list (outlines version children))
      else ("payload", .atom (Text.quoteOctets payload))
    .fields (version.elementName type) ([("type", .ofNat type.toNat)] ++ inst ++ [content])

def outlines (version : Version) : List Element → List Text.Outline
  | [] => []
  | element :: rest => outline version element :: outlines version rest

end

end GtpControl.Element
