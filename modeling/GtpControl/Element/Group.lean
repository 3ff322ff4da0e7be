import GtpControl.Element.Basic

/-! # Grouped elements: the payload follows every change of the children -/
namespace GtpControl.Element

/-- Takes other children, and their encoding as the payload. -/
def setChildren (version : Version) (children : List Element) (element : Element) : Element :=
  { element with children, payload := children.flatMap (octets version) }

/-- Does nothing on an element that is not grouped. -/
def addChildren (version : Version) (added : List Element) (element : Element) : Element :=
  if version.isGrouped element.type then
    element.setChildren version (element.children ++ added)
  else element

/-- A grouped element with the given children; a type that is not grouped gets none. -/
def group (version : Version) (type inst : UInt8) (children : List Element) : Element :=
  (plain version type inst []).addChildren version children

/-- The first element with a property, and the list without it. -/
def takeFirst {α : Type} (p : α → Bool) : List α → Option (α × List α)
  | [] => none
  | x :: xs =>
    if p x then some (x, xs) else (takeFirst p xs).map fun (found, rest) => (found, x :: rest)

/-- Takes out the first child of this type and instance. -/
def removeChild (version : Version) (type inst : UInt8) (element : Element) :
    Option Element × Element :=
  if version.isGrouped element.type then
    match takeFirst (isNamed version type inst) element.children with
    | some (removed, rest) => (some removed, element.setChildren version rest)
    | none => (none, element)
  else (none, element)

/-- The first child of this type and instance. -/
def findChild (version : Version) (type inst : UInt8) (element : Element) : Coded Element :=
  if version.isGrouped element.type then
    match element.children.find? (isNamed version type inst) with
    | some child => pure child
    | none => throw (.notFound type inst)
  else throw (.invalidType element.type)

end GtpControl.Element
