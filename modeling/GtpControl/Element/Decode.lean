import GtpControl.Element.Basic

/-! # Decoding elements

`splitFrame` takes the framing of one element apart and leaves less than it was given, so that
lists of elements can be decoded to any depth. -/
namespace GtpControl.Element

/-- Takes the payload that a length field announces. -/
def splitPayload (type inst : UInt8) (length : Nat) (body : Octets) : Coded (Element × Octets) :=
  match Octets.split? length body with
  | none => throw (.invalidLength length body.length)
  | some (payload, rest) => pure (⟨type, inst, payload, []⟩, rest)

/-- The first element of an octet string, its children not yet decoded, and what follows it. -/
def splitFrame (version : Version) : Octets → Coded (Element × Octets)
  | [] => throw (.tooShort 1 0)
  | type :: rest =>
    match version.form? type with
    | none => throw (.invalidType type)
    | some (.fixed width) =>
      match Octets.split? width rest with
      | none => throw (.tooShort (1 + width) (1 + rest.length))
      | some (payload, rest) => pure (⟨type, 0, payload, []⟩, rest)
    | some _ =>
      match version.hasInstance, rest with
      | true, high :: low :: inst :: body =>
        splitPayload type (inst &&& 0x0f) (Octets.toNat [high, low]) body
      | false, high :: low :: body => splitPayload type 0 (Octets.toNat [high, low]) body
      | _, _ => throw (.tooShort (headerSize version type) (1 + rest.length))

private theorem length_of_split? {n : Nat} {octets front back : Octets}
    (h : Octets.split? n octets = some (front, back)) :
    octets.length = front.length + back.length := by
  rw [(Octets.split?_eq_some.1 h).1, List.length_append]

private theorem length_splitPayload {type inst : UInt8} {length : Nat} {body rest : Octets}
    {shell : Element} (h : splitPayload type inst length body = .ok (shell, rest)) :
    body.length = shell.payload.length + rest.length := by
  unfold splitPayload at h
  split at h
  · cases h
  · next hs => cases h; exact length_of_split? hs

/-- The payload and the rest of a split are together shorter than what was split. -/
theorem length_splitFrame {version : Version} {octets rest : Octets} {shell : Element}
    (h : splitFrame version octets = .ok (shell, rest)) :
    shell.payload.length + rest.length < octets.length := by
  unfold splitFrame at h
  split at h
  · cases h
  · split at h
    · cases h
    · split at h
      · cases h
      · next hs =>
        cases h
        have := length_of_split? hs
        simp only [List.length_cons]
        omega
    · split at h
      · have := length_splitPayload h
        simp only [List.length_cons]
        omega
      · have := length_splitPayload h
        simp only [List.length_cons]
        omega
      · cases h

/-- The elements that an octet string is made of. The first fault from the left is reported. -/
def decodeAll (version : Version) : Octets → Coded (List Element)
  | [] => pure []
  | first :: following =>
    match h : splitFrame version (first :: following) with
    | .error e => throw e
    | .ok (shell, rest) => do
      have := length_splitFrame h
      let children ←
        if version.isGrouped shell.type then decodeAll version shell.payload else pure []
      let more ← decodeAll version rest
      return { shell with children } :: more
termination_by octets => octets.length
decreasing_by
  all_goals
    simp only [List.length_cons] at this ⊢
    omega

/-- The children that the payload of an element holds. -/
def decodeChildren (version : Version) (type : UInt8) (payload : Octets) : Coded (List Element) :=
  if version.isGrouped type then decodeAll version payload else pure []

/-- The first element of an octet string, and what follows it. -/
def decode (version : Version) (octets : Octets) : Coded (Element × Octets) := do
  let (shell, rest) ← splitFrame version octets
  return ({ shell with children := ← decodeChildren version shell.type shell.payload }, rest)

/-- An element of a type with a payload, both of which are checked. -/
def make (version : Version) (type inst : UInt8) (payload : Octets) : Coded Element := do
  if maxLength < payload.length then throw (.tooLarge payload.length)
  match version.form? type with
  | none => throw (.invalidType type)
  | some (.fixed width) =>
    if payload.length ≠ width then throw (.invalidLength width payload.length)
  | some _ => pure ()
  return ⟨type, version.maskInstance inst, payload, ← decodeChildren version type payload⟩

end GtpControl.Element
