import GtpControl.Element.Group
import GtpControl.Message.Field
import GtpControl.Message.Kind

/-! # Slots: places for elements of a type

A message holds its elements in slots, in the order of its layout, and after them those that found
no slot. -/
namespace GtpControl

structure Slot where
  field : Field
  type : UInt8
  /-- the only instance that is taken, if not any -/
  inst : Option UInt8
  /-- whether there is room for more than one element -/
  repeated : Bool
deriving DecidableEq, Repr

namespace Slot

def one (field : Field) (type : UInt8) : Slot := ⟨field, type, none, false⟩

def oneAt (field : Field) (type inst : UInt8) : Slot := ⟨field, type, some inst, false⟩

def many (field : Field) (type : UInt8) : Slot := ⟨field, type, none, true⟩

def manyAt (field : Field) (type inst : UInt8) : Slot := ⟨field, type, some inst, true⟩

def accepts (slot : Slot) (element : Element) : Bool :=
  element.type == slot.type && slot.inst.all (· == element.inst)

/-- Takes the elements of a slot out of a list: the first that it accepts, or all of them. -/
def take (slot : Slot) (elements : List Element) : List Element × List Element :=
  if slot.repeated then elements.partition slot.accepts
  else
    match Element.takeFirst slot.accepts elements with
    | some (element, rest) => ([element], rest)
    | none => ([], elements)

/-- Fills the slots of a layout one after the other; the second part is what none of them took. -/
def takeAll : List Slot → List Element → List (Slot × List Element) × List Element
  | [], elements => ([], elements)
  | slot :: slots, elements =>
    let (taken, left) := slot.take elements
    let (filled, additional) := takeAll slots left
    ((slot, taken) :: filled, additional)

/-- Puts an element into the first slot that accepts it and has room. -/
def put? (element : Element) : List (Slot × List Element) → Option (List (Slot × List Element))
  | [] => none
  | (slot, held) :: filled =>
    if slot.accepts element && (slot.repeated || held.isEmpty) then
      some ((slot, held ++ [element]) :: filled)
    else (put? element filled).map ((slot, held) :: ·)

end Slot
end GtpControl
