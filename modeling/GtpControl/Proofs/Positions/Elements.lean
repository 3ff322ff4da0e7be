import GtpControl.Message
import GtpControl.Proofs.ElementFraming
import GtpControl.Proofs.Positions.Headers

/-! # Elements, read by position -/
namespace GtpControl
namespace Reached

/-! ## Frames -/

/-- An element without a length field, and how many octets it takes. -/
def fixedFrame (version : Version) (type : UInt8) (data : Octets) : Reached (Element × Nat) :=
  match version.fixedWidth? type with
  | none => refuse (.invalidType type)
  | some width => do
    answer (ensureSize data.length (1 + width))
    return (⟨type, 0, ← slice data 1 (1 + width), []⟩, 1 + width)

/-- An element with a length field, its children not yet decoded, and how many octets it takes. -/
def sizedFrame (version : Version) (type : UInt8) (data : Octets) : Reached (Element × Nat) := do
  let header := Element.headerSize version type
  answer (ensureSize data.length header)
  let length := Octets.toNat [← octet data 1, ← octet data 2]
  let inst ← (if version.hasInstance then return (← octet data 3) &&& 0x0f else return 0 :
    Reached UInt8)
  if data.length < header + length then
    refuse (.invalidLength length (← minus data.length header))
  return (⟨type, inst, ← slice data header (header + length), []⟩, header + length)

/-- The first element, its children not yet decoded, and how many octets it takes. -/
def frame (version : Version) (data : Octets) : Reached (Element × Nat) := do
  answer (ensureSize data.length 1)
  let type ← octet data 0
  if version.hasLength type then sizedFrame version type data else fixedFrame version type data

/-- What goes before a cut is as long as where the cut starts. -/
private theorem cut_eq {α : Type} (front : Octets) {body : Octets} {n : Nat} (hn : n ≤ body.length)
    (f : Octets → α) :
    (do
      let payload ← slice (front ++ body) front.length (front.length + n)
      let rest ← advance (front.length + n) (front ++ body)
      .ok (f payload, rest)) = (.ok (f (body.take n), body.drop n) : Reached (α × Octets)) := by
  have hlength : front.length + n ≤ (front ++ body).length := by
    rw [List.length_append]
    omega
  rw [slice_eq (Nat.le_add_right ..) hlength, advance_eq hlength, List.take_length_add_append,
    List.drop_left, List.drop_length_add_append]
  rfl

theorem fixedFrame_eq {version : Version} {type : UInt8} {width : Nat}
    (hw : version.fixedWidth? type = some width) (rest : Octets) :
    (do let (shell, consumed) ← fixedFrame version type (type :: rest)
        return (shell, ← advance consumed (type :: rest))) =
      answer (match Octets.split? width rest with
        | none => throw (.tooShort (1 + width) (1 + rest.length))
        | some (payload, rest) => pure (⟨type, 0, payload, []⟩, rest)) := by
  rw [fixedFrame, hw, List.length_cons, Nat.add_comm rest.length 1]
  by_cases hn : width ≤ rest.length
  · simp only [split_eq hn, ensureSize, if_neg (by omega : ¬1 + rest.length < 1 + width), pure_eq,
      answer_ok, ok_bind, bind_assoc]
    exact cut_eq [type] hn fun payload => (⟨type, 0, payload, []⟩ : Element)
  · simp only [Octets.split?_eq_none.2 (Nat.lt_of_not_le hn), ensureSize,
      if_pos (by omega : 1 + rest.length < 1 + width)]
    rfl

private theorem splitPayload_reached (front body : Octets) (type inst : UInt8) (length : Nat) :
    (do let (shell, consumed) ← (do
          if (front ++ body).length < front.length + length then
            refuse (.invalidLength length (← minus (front ++ body).length front.length))
          let payload ← slice (front ++ body) front.length (front.length + length)
          .ok ((⟨type, inst, payload, []⟩ : Element), front.length + length))
        return (shell, ← advance consumed (front ++ body))) =
      answer (Element.splitPayload type inst length body) := by
  rw [List.length_append, Element.splitPayload]
  by_cases hn : length ≤ body.length
  · simp only [split_eq hn, if_neg (by omega : ¬front.length + body.length < front.length + length),
      pure_eq, answer_ok, ok_bind, bind_assoc]
    exact cut_eq front hn fun payload => (⟨type, inst, payload, []⟩ : Element)
  · simp only [Octets.split?_eq_none.2 (Nat.lt_of_not_le hn),
      if_pos (by omega : front.length + body.length < front.length + length),
      minus_eq (Nat.le_add_right ..), Nat.add_sub_cancel_left]
    rfl

theorem sizedFrame_eq {version : Version} {type : UInt8} (hl : version.hasLength type = true)
    (rest : Octets) :
    (do let (shell, consumed) ← sizedFrame version type (type :: rest)
        return (shell, ← advance consumed (type :: rest))) =
      answer (match version.hasInstance, rest with
        | true, high :: low :: inst :: body =>
          Element.splitPayload type (inst &&& 0x0f) (Octets.toNat [high, low]) body
        | false, high :: low :: body => Element.splitPayload type 0 (Octets.toNat [high, low]) body
        | _, _ => throw (.tooShort (Element.headerSize version type) (1 + rest.length))) := by
  rw [sizedFrame, Element.headerSize, hl]
  cases version.hasInstance with
  | false =>
    rcases rest with _ | ⟨high, _ | ⟨low, body⟩⟩
    iterate 2 rfl
    exact splitPayload_reached [type, high, low] body type 0 (Octets.toNat [high, low])
  | true =>
    rcases rest with _ | ⟨high, _ | ⟨low, _ | ⟨inst, body⟩⟩⟩
    iterate 3 rfl
    exact splitPayload_reached [type, high, low, inst] body type (inst &&& 0x0f)
      (Octets.toNat [high, low])

theorem frame_eq (version : Version) (data : Octets) :
    (do let (shell, consumed) ← frame version data
        return (shell, ← advance consumed data)) = answer (Element.splitFrame version data) := by
  match data with
  | [] => rfl
  | type :: rest =>
    rw [frame, ensureSize, if_neg (by simp)]
    unfold Element.splitFrame
    simp only [pure_eq, answer_ok, ok_bind, octet_cons_zero]
    have hl := Version.hasLength_eq version type
    cases hf : version.form? type with
    | none =>
      have hw : version.fixedWidth? type = none := by rw [Version.fixedWidth?, hf]
      rw [hf] at hl
      rw [hl, fixedFrame, hw]
      rfl
    | some form =>
      rw [hf] at hl
      cases form with
      | fixed width =>
        rw [hl]
        exact fixedFrame_eq (by rw [Version.fixedWidth?, hf]) rest
      | sized | grouped =>
        rw [if_pos hl]
        exact sizedFrame_eq hl rest

/-- A frame that was read ends inside the octets. -/
theorem splitFrame_of_frame {version : Version} {data : Octets} {shell : Element} {consumed : Nat}
    (h : frame version data = .ok (shell, consumed)) :
    consumed ≤ data.length ∧
      Element.splitFrame version data = .ok (shell, data.drop consumed) := by
  have heq := frame_eq version data
  simp only [h, ok_bind, advance] at heq
  split at heq
  · next hc => exact ⟨hc, mapError_eq_ok.1 heq.symm⟩
  · cases hs : Element.splitFrame version data <;> rw [hs] at heq <;> cases heq

theorem splitFrame_of_frame_error {version : Version} {data : Octets} {fault : Fault}
    (h : frame version data = .error fault) :
    ∃ e, fault = .refused e ∧ Element.splitFrame version data = .error e := by
  have heq := frame_eq version data
  rw [h, error_bind] at heq
  cases hs : Element.splitFrame version data with
  | error e =>
    rw [hs] at heq
    cases heq
    exact ⟨e, rfl, rfl⟩
  | ok split =>
    rw [hs] at heq
    cases heq

/-! ## Lists -/

/-- The elements that make up the octets. -/
def elements (version : Version) (data : Octets) : Reached (List Element) :=
  if data = [] then pure []
  else
    match h : frame version data with
    | .error fault => throw fault
    | .ok (shell, consumed) => do
      have := Element.length_splitFrame (splitFrame_of_frame h).2
      let children ← (if version.isGrouped shell.type then elements version shell.payload
        else pure [] : Reached (List Element))
      if consumed ≤ data.length then
        return { shell with children } :: (← elements version (data.drop consumed))
      else throw .outside
termination_by data.length
decreasing_by all_goals omega

/-- The children that the payload of an element holds. -/
def children (version : Version) (type : UInt8) (payload : Octets) : Reached (List Element) :=
  if version.isGrouped type then elements version payload else pure []

/-- The first element. -/
def element (version : Version) (data : Octets) : Reached Element := do
  let (shell, _) ← frame version data
  return { shell with children := ← children version shell.type shell.payload }

/-- An element of a type with a payload, both of which are checked. -/
def make (version : Version) (type inst : UInt8) (payload : Octets) : Reached Element := do
  if maxLength < payload.length then refuse (.tooLarge payload.length)
  if !version.hasLength type then
    match version.fixedWidth? type with
    | none => refuse (.invalidType type)
    | some width =>
      if payload.length ≠ width then refuse (.invalidLength width payload.length)
  return ⟨type, version.maskInstance inst, payload, ← children version type payload⟩

/-- The header of a datagram and the elements after it. -/
def parts (version : Version) (policy : LengthPolicy) (data : Octets) :
    Reached (Header × List Element) := do
  let (h, payload) ← header version policy data
  return (h, ← elements version payload)

theorem elements_eq (version : Version) (data : Octets) :
    elements version data = answer (Element.decodeAll version data) := by
  induction hn : data.length using Nat.strongRecOn generalizing data with
  | _ n ih =>
    match data with
    | [] =>
      unfold elements Element.decodeAll
      rfl
    | first :: following =>
      unfold elements
      rw [if_neg (List.cons_ne_nil first following), Element.decodeAll_cons, Element.decode]
      split
      · next fault hf =>
        obtain ⟨e, rfl, he⟩ := splitFrame_of_frame_error hf
        rw [he]
        rfl
      · next shell consumed hf =>
        obtain ⟨hc, hs⟩ := splitFrame_of_frame hf
        have hlt := Element.length_splitFrame hs
        have hchildren : (if version.isGrouped shell.type then elements version shell.payload
            else .ok []) = answer (Element.decodeChildren version shell.type shell.payload) := by
          unfold Element.decodeChildren
          split
          · exact ih _ (by omega) shell.payload rfl
          · rfl
        have hmore := ih _ (by omega) ((first :: following).drop consumed) rfl
        rw [hs]
        simp only [hchildren, hmore, if_pos hc, ok_bind, answer_bind, bind_assoc, pure_eq, answer_ok]

theorem children_eq (version : Version) (type : UInt8) (payload : Octets) :
    children version type payload = answer (Element.decodeChildren version type payload) := by
  unfold children Element.decodeChildren
  split
  · exact elements_eq version payload
  · rfl

theorem element_eq (version : Version) (data : Octets) :
    element version data = answer (Prod.fst <$> Element.decode version data) := by
  rw [element, Element.decode]
  cases hf : frame version data with
  | error fault =>
    obtain ⟨e, rfl, he⟩ := splitFrame_of_frame_error hf
    rw [he]
    rfl
  | ok framed =>
    obtain ⟨shell, consumed⟩ := framed
    rw [(splitFrame_of_frame hf).2]
    simp only [ok_bind, children_eq]
    cases Element.decodeChildren version shell.type shell.payload <;> rfl

theorem make_eq (version : Version) (type inst : UInt8) (payload : Octets) :
    make version type inst payload = answer (Element.make version type inst payload) := by
  rw [make, Element.make, Version.hasLength_eq, Version.fixedWidth?, children_eq]
  split
  · rfl
  · cases version.form? type with
    | none => rfl
    | some form =>
      cases form with
      | fixed width =>
        by_cases hw : payload.length = width <;> simp [hw]
      | sized | grouped => simp

theorem parts_eq (version : Version) (policy : LengthPolicy) (data : Octets) :
    parts version policy data = answer (Message.parseParts version policy data) := by
  simp only [parts, Message.parseParts, header_eq, elements_eq, answer_bind, pure_eq, answer_ok]

end Reached
end GtpControl
