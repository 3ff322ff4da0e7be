import GtpControl.Catalog

/-! # Information elements: a typed payload, which for a grouped type is a list of elements -/
namespace GtpControl

structure Element where
  type : UInt8
  inst : UInt8
  payload : Octets
  children : List Element
deriving Repr, Inhabited

namespace Element

mutual

def decEq : (x y : Element) → Decidable (x = y)
  | ⟨type, inst, payload, children⟩, ⟨type', inst', payload', children'⟩ =>
    if h : type = type' ∧ inst = inst' ∧ payload = payload' then
      match decEqList children children' with
      | .isTrue hc => .isTrue (by obtain ⟨rfl, rfl, rfl⟩ := h; rw [hc])
      | .isFalse hc => .isFalse (by simp [hc])
    else .isFalse fun e => h (by simp_all)

def decEqList : (xs ys : List Element) → Decidable (xs = ys)
  | [], [] => .isTrue rfl
  | [], _ :: _ => .isFalse (by simp)
  | _ :: _, [] => .isFalse (by simp)
  | x :: xs, y :: ys =>
    match decEq x y, decEqList xs ys with
    | .isTrue hx, .isTrue hxs => .isTrue (by rw [hx, hxs])
    | .isFalse hx, _ => .isFalse (by simp [hx])
    | _, .isFalse hxs => .isFalse (by simp [hxs])

end

instance : DecidableEq Element := decEq

/-- An element whose payload is known to be well formed for its type. -/
def plain (version : Version) (type inst : UInt8) (payload : Octets) : Element :=
  ⟨type, version.maskInstance inst, payload, []⟩

def withInstance (version : Version) (inst : UInt8) (element : Element) : Element :=
  { element with inst := version.maskInstance inst }

/-- Octets of an element before its payload. -/
def headerSize (version : Version) (type : UInt8) : Nat :=
  if version.hasLength type then (if version.hasInstance then 4 else 3) else 1

def encodedSize (version : Version) (element : Element) : Nat :=
  headerSize version element.type + element.payload.length

/-- The element on the wire; a length that does not fit its field is written as the largest one. -/
def octets (version : Version) (element : Element) : Octets :=
  if version.hasLength element.type then
    element.type :: Octets.ofNat 2 (min element.payload.length maxLength)
      ++ (if version.hasInstance then [element.inst] else []) ++ element.payload
  else element.type :: element.payload

/-- The element on the wire, if its length fits the length field. -/
def encode (version : Version) (element : Element) : Coded Octets :=
  if version.hasLength element.type ∧ maxLength < element.payload.length then
    throw (.tooLarge element.payload.length)
  else pure (element.octets version)

/-- Whether the element has this type and, where there are instances, this instance. -/
def isNamed (version : Version) (type inst : UInt8) (element : Element) : Bool :=
  element.type == type && (!version.hasInstance || element.inst == inst)

end Element
end GtpControl
