import GtpControl.Element.Group
import GtpControl.Element.Decode
import GtpControl.Proofs.OctetNumerals
import GtpControl.Proofs.Results

/-! # Framing of elements: what is written is read back as it was, whatever goes after it -/
namespace GtpControl
open Catalog

/-! ## Forms -/

namespace Version

private theorem hasLength_entries (version : Version) :
    ∀ entry ∈ version.elements,
      version.hasLength entry.type = match entry.form with | .fixed _ => false | _ => true := by
  cases version <;> decide

/-- Types without a length field are those of a fixed width, and those that are not known. -/
theorem hasLength_eq (version : Version) (type : UInt8) :
    version.hasLength type =
      match version.form? type with | none => false | some (.fixed _) => false | some _ => true := by
  cases he : version.elements.find? (·.type == type) with
  | some entry =>
    have ht : entry.type = type := by simpa using List.find?_some he
    have hf : version.form? type = some entry.form := by rw [form?, he]
    rw [hf, ← ht, hasLength_entries version entry (List.mem_of_find?_eq_some he)]
    cases entry.form <;> rfl
  | none =>
    rw [form?, he]
    cases version.hasLength type <;> rfl

theorem hasLength_of_isGrouped {version : Version} {type : UInt8}
    (h : version.isGrouped type = true) : version.hasLength type = true := by
  rw [isGrouped, beq_iff_eq] at h
  rw [hasLength_eq, h]

private theorem fixed_entries (version : Version) :
    ∀ entry ∈ version.elements, entry.form ≠ .fixed 0 := by
  cases version <;> decide

/-- No type has a fixed width of nothing. -/
theorem form?_ne_fixed_zero (version : Version) (type : UInt8) :
    version.form? type ≠ some (.fixed 0) := by
  intro h
  rw [form?] at h
  cases he : version.elements.find? (·.type == type) with
  | some entry =>
    rw [he] at h
    exact fixed_entries version entry (List.mem_of_find?_eq_some he) (Option.some.inj h)
  | none =>
    rw [he] at h
    dsimp only at h
    split at h <;> cases h

@[simp] theorem maskInstance_maskInstance (version : Version) (inst : UInt8) :
    version.maskInstance (version.maskInstance inst) = version.maskInstance inst := by
  unfold maskInstance
  split
  · rw [UInt8.and_assoc, UInt8.and_self]
  · rfl

end Version

namespace Element
variable {version : Version}

/-! ## Elements that can be framed -/

/-- The payload fits the length field, where there is one. -/
def Fits (version : Version) (element : Element) : Prop :=
  version.hasLength element.type = true → element.payload.length ≤ maxLength

/-- The type is known where that is needed, and a fixed width is kept to. -/
def Shaped (version : Version) (type : UInt8) (payload : Octets) : Prop :=
  match version.form? type with
  | none => False
  | some (.fixed width) => payload.length = width
  | some _ => True

/-- The parts of an element belong together: the payload has the shape of the type, the instance is
one that the version can write, and a payload that can be written is made of the children. -/
structure Framed (version : Version) (element : Element) : Prop where
  shaped : Shaped version element.type element.payload
  inst : version.maskInstance element.inst = element.inst
  children : Fits version element →
    decodeChildren version element.type element.payload = .ok element.children

/-- An element is sound when it and its children, at any depth, can be framed. -/
inductive Sound (version : Version) : Element → Prop where
  | intro {element : Element} (framed : Framed version element)
      (children : ∀ child ∈ element.children, Sound version child) : Sound version element

theorem Sound.framed {element : Element} (h : Sound version element) :
    Framed version element := by
  cases h; assumption

theorem Sound.child {element child : Element} (h : Sound version element)
    (hc : child ∈ element.children) : Sound version child := by
  cases h with
  | intro _ children => exact children child hc

theorem shaped_of_hasLength {type : UInt8} (h : version.hasLength type = true)
    (payload : Octets) : Shaped version type payload := by
  rw [Version.hasLength_eq] at h
  rw [Shaped]
  split <;> simp_all

@[simp] theorem decodeChildren_of_not_isGrouped {type : UInt8}
    (h : version.isGrouped type = false) (payload : Octets) :
    decodeChildren version type payload = .ok [] := by
  simp [decodeChildren, h]

theorem encode_eq_ok {element : Element} {octets : Octets} :
    encode version element = .ok octets ↔
      Fits version element ∧ octets = element.octets version := by
  rw [encode, Fits]
  split
  · next h =>
    simp only [throw_eq, reduceCtorEq, false_iff, not_and]
    exact fun hf => absurd (hf h.1) (Nat.not_le.2 h.2)
  · next h =>
    simp only [pure_eq, Except.ok.injEq, eq_comm (a := element.octets version)]
    refine ⟨fun he => ⟨fun hl => ?_, he⟩, And.right⟩
    exact Nat.not_lt.1 fun hlt => h ⟨hl, hlt⟩

/-- A list can be written when all its elements can. -/
theorem mapM_encode_eq_ok {elements : List Element} {parts : List Octets} :
    elements.mapM (encode version) = .ok parts ↔
      (∀ x ∈ elements, Fits version x) ∧ parts = elements.map (octets version) :=
  mapM_eq_ok_map fun _ _ => encode_eq_ok

@[simp] theorem length_octets (version : Version) (element : Element) :
    (element.octets version).length = element.encodedSize version := by
  rw [octets, encodedSize, headerSize]
  cases version.hasLength element.type <;> cases version.hasInstance <;> simp <;> omega

/-! ## Reading back what was written -/

/-- The element without its children, as its frame alone shows it. -/
def shell (element : Element) : Element := { element with children := [] }

theorem splitPayload_append {type inst : UInt8} {n : Nat} {payload : Octets}
    (h : payload.length = n) (rest : Octets) :
    splitPayload type inst n (payload ++ rest) = .ok (⟨type, inst, payload, []⟩, rest) := by
  rw [splitPayload]
  rw [Octets.split?_append h]
  rfl

/-- A type with a length field has a form other than a fixed width. -/
theorem form_of_hasLength {type : UInt8} (h : version.hasLength type = true) :
    version.form? type = some .sized ∨ version.form? type = some .grouped := by
  rw [Version.hasLength_eq] at h
  match hf : version.form? type with
  | none => simp [hf] at h
  | some (.fixed _) => simp [hf] at h
  | some .sized => exact .inl rfl
  | some .grouped => exact .inr rfl

/-- A type without a length field is not known, or has a fixed width that is not zero. -/
theorem form_of_not_hasLength {type : UInt8} (h : version.hasLength type = false) :
    version.form? type = none ∨
      ∃ width, width ≠ 0 ∧ version.form? type = some (.fixed width) := by
  rw [Version.hasLength_eq] at h
  cases hf : version.form? type with
  | none => exact .inl rfl
  | some form =>
    rw [hf] at h
    cases form with
    | fixed width =>
      refine .inr ⟨width, ?_, rfl⟩
      rintro rfl
      exact version.form?_ne_fixed_zero type hf
    | sized | grouped => cases h

private theorem splitFrame_sized {element : Element} (framed : Framed version element)
    (fits : Fits version element) (hl : version.hasLength element.type = true) (rest : Octets) :
    splitFrame version (element.octets version ++ rest) = .ok (element.shell, rest) := by
  have hs := fits hl
  obtain ⟨high, low, hn, hlen⟩ := exists_lengthField hs
  have hi := framed.inst
  unfold octets splitFrame
  rw [if_pos hl, Nat.min_eq_left hs, hn]
  -- Both forms with a length field are read in the same way.
  cases hv : version.hasInstance with
  | true =>
    rw [Version.maskInstance, if_pos hv] at hi
    rcases form_of_hasLength hl with hf | hf <;>
    · simp only [hf, if_true, List.cons_append, List.nil_append]
      rw [hlen, hi, splitPayload_append rfl]
      rfl
  | false =>
    rw [Version.maskInstance, hv] at hi
    have hi : 0 = element.inst := hi
    rcases form_of_hasLength hl with hf | hf <;>
    · simp only [hf, Bool.false_eq_true, if_false, List.cons_append, List.nil_append,
        List.append_nil]
      rw [hlen, splitPayload_append rfl, hi]
      rfl

private theorem splitFrame_fixed {element : Element} (framed : Framed version element)
    (hl : version.hasLength element.type = false) (rest : Octets) :
    splitFrame version (element.octets version ++ rest) = .ok (element.shell, rest) := by
  have hv : version.hasInstance = false := by
    cases version with
    | v2 => simp [Version.hasLength] at hl
    | _ => rfl
  have hi : 0 = element.inst := by simpa [Version.maskInstance, hv] using framed.inst
  have hs := framed.shaped
  rw [Version.hasLength_eq] at hl
  rw [Shaped] at hs
  unfold octets splitFrame
  rw [Version.hasLength_eq, hl]
  match hf : version.form? element.type with
  | none => simp [hf] at hs
  | some .sized => simp [hf] at hl
  | some .grouped => simp [hf] at hl
  | some (.fixed width) =>
    rw [hf] at hs
    simp only [Bool.false_eq_true, if_false, List.cons_append, hf]
    rw [Octets.split?_append hs, hi]
    rfl

/-- The frame of an element is taken off as it was put on. -/
theorem splitFrame_octets {element : Element} (framed : Framed version element)
    (fits : Fits version element) (rest : Octets) :
    splitFrame version (element.octets version ++ rest) = .ok (element.shell, rest) := by
  cases hl : version.hasLength element.type with
  | true => exact splitFrame_sized framed fits hl rest
  | false => exact splitFrame_fixed framed hl rest

theorem decode_octets {element : Element} (framed : Framed version element)
    (fits : Fits version element) (rest : Octets) :
    decode version (element.octets version ++ rest) = .ok (element, rest) := by
  rw [decode]
  have hc : decodeChildren version element.shell.type element.shell.payload =
      .ok element.children := framed.children fits
  rw [splitFrame_octets framed fits, ok_bind]
  simp only [hc, ok_bind]
  cases element
  rfl

/-- A list of elements is its first element and the list of the others. -/
theorem decodeAll_cons (o : UInt8) (octets : Octets) :
    decodeAll version (o :: octets) = (do
      let (element, rest) ← decode version (o :: octets)
      return element :: (← decodeAll version rest)) := by
  rw [decodeAll, decode]
  split
  · next hs => rw [hs]; rfl
  · next shell rest hs =>
    simp only [hs, ok_bind, decodeChildren]
    cases version.isGrouped shell.type with
    | true => cases decodeAll version shell.payload <;> simp
    | false => simp

/-- An element at the start of a list is decoded before the others. -/
theorem decodeAll_of_decode {octets rest : Octets} {element : Element}
    (h : decode version octets = .ok (element, rest)) :
    decodeAll version octets = (decodeAll version rest).map (element :: ·) := by
  cases octets with
  | nil => simp [decode, splitFrame] at h
  | cons o octets =>
    rw [decodeAll_cons, h, ok_bind]
    cases hm : decodeAll version rest <;> simp [hm, Except.map]

theorem decodeAll_octets {elements : List Element} (framed : ∀ x ∈ elements, Framed version x)
    (fits : ∀ x ∈ elements, Fits version x) :
    decodeAll version (elements.flatMap (octets version)) = .ok elements := by
  induction elements with
  | nil => simp [decodeAll]
  | cons x xs ih =>
    rw [List.flatMap_cons]
    have hx := decode_octets (framed x List.mem_cons_self) (fits x List.mem_cons_self)
    have hxs := ih (fun y hy => framed y (List.mem_cons_of_mem x hy))
      (fun y hy => fits y (List.mem_cons_of_mem x hy))
    rw [decodeAll_of_decode (hx _), hxs]
    rfl

/-! ## What is read from any octets -/

theorem splitPayload_eq_ok {type inst : UInt8} {n : Nat} {body rest : Octets}
    {shell : Element} (h : splitPayload type inst n body = .ok (shell, rest)) :
    ∃ payload, shell = ⟨type, inst, payload, []⟩ ∧ payload.length = n ∧ body = payload ++ rest := by
  rw [splitPayload] at h
  split at h
  · cases h
  · next payload more hs =>
    cases h
    obtain ⟨hb, hn⟩ := Octets.split?_eq_some.1 hs
    exact ⟨payload, rfl, hn, hb⟩

/-- What can be said of a frame that was taken off. -/
structure Unframed (version : Version) (octets : Octets) (shell : Element) (rest : Octets) :
    Prop where
  shaped : Shaped version shell.type shell.payload
  inst : version.maskInstance shell.inst = shell.inst
  fits : Fits version shell
  size : shell.encodedSize version + rest.length = octets.length

private theorem unframed_fixed {type : UInt8} {width : Nat} {payload rest : Octets}
    (hf : version.form? type = some (.fixed width)) (hw : payload.length = width) :
    Unframed version (type :: (payload ++ rest)) ⟨type, 0, payload, []⟩ rest := by
  have hl : version.hasLength type = false := by rw [Version.hasLength_eq, hf]
  refine ⟨by rw [Shaped, hf]; exact hw, ?_, fun h => ?_, ?_⟩
  · rw [Version.maskInstance]
    split
    · exact UInt8.zero_and
    · rfl
  · rw [hl] at h
    cases h
  · simp only [encodedSize, headerSize, hl, List.length_cons, List.length_append,
      Bool.false_eq_true, if_false]
    omega

private theorem unframed_sized (front : Octets) {type inst : UInt8} {n : Nat}
    {body rest : Octets} {shell : Element} (hl : version.hasLength type = true) (hn : n ≤ maxLength)
    (hi : version.maskInstance inst = inst) (hw : headerSize version type = front.length + 1)
    (h : splitPayload type inst n body = .ok (shell, rest)) :
    Unframed version (type :: (front ++ body)) shell rest := by
  obtain ⟨payload, rfl, hp, rfl⟩ := splitPayload_eq_ok h
  refine ⟨shaped_of_hasLength hl payload, hi, fun _ => hp ▸ hn, ?_⟩
  simp only [encodedSize, hw, List.length_cons, List.length_append]
  omega

theorem unframed_of_splitFrame {octets rest : Octets} {shell : Element}
    (h : splitFrame version octets = .ok (shell, rest)) : Unframed version octets shell rest := by
  unfold splitFrame at h
  split at h
  · cases h
  · next type body =>
    split at h
    · cases h
    · next width hf =>
      split at h
      · cases h
      · next payload more hs =>
        cases h
        obtain ⟨rfl, hw⟩ := Octets.split?_eq_some.1 hs
        exact unframed_fixed hf hw
    · next form hnf hf =>
      have hl : version.hasLength type = true := by
        rw [Version.hasLength_eq, hf]
        cases form with
        | fixed width => exact (hnf width rfl).elim
        | _ => rfl
      -- Only the versions with instances have an octet for them.
      split at h
      · next high low inst body hv =>
        refine unframed_sized [high, low, inst] hl (toNat_two_le high low) ?_ ?_ h
        · rw [Version.maskInstance, if_pos hv, UInt8.and_assoc, UInt8.and_self]
        · simp [headerSize, hl, hv]
      · next high low body hv =>
        refine unframed_sized [high, low] hl (toNat_two_le high low) ?_ ?_ h
        · simp [Version.maskInstance, hv]
        · simp [headerSize, hl, hv]
      · cases h

/-- One decoded element, with the octets that it takes. -/
theorem unframed_of_decode {element : Element} {octets rest : Octets}
    (h : decode version octets = .ok (element, rest)) :
    Unframed version octets element rest ∧
      decodeChildren version element.type element.payload = .ok element.children := by
  simp only [decode, bind_eq_ok, pure_eq, Except.ok.injEq, Prod.mk.injEq, Prod.exists] at h
  obtain ⟨shell, more, hs, children, hc, rfl, rfl⟩ := h
  obtain ⟨shaped, inst, fits, size⟩ := unframed_of_splitFrame hs
  exact ⟨⟨shaped, inst, fits, size⟩, hc⟩

theorem decodeAll_cons_eq_ok {o : UInt8} {octets : Octets} {elements : List Element}
    (h : decodeAll version (o :: octets) = .ok elements) :
    ∃ element rest more, decode version (o :: octets) = .ok (element, rest) ∧
      decodeAll version rest = .ok more ∧ elements = element :: more := by
  simp only [decodeAll_cons, bind_eq_ok, pure_eq, Except.ok.injEq, Prod.exists] at h
  obtain ⟨element, rest, hd, more, hm, rfl⟩ := h
  exact ⟨element, rest, more, hd, hm, rfl⟩

theorem Unframed.payload_lt {octets rest : Octets} {element : Element}
    (h : Unframed version octets element rest) : element.payload.length < octets.length := by
  have := h.size
  rw [encodedSize, headerSize] at this
  split at this <;> try split at this
  all_goals omega

theorem Unframed.rest_lt {octets rest : Octets} {element : Element}
    (h : Unframed version octets element rest) : rest.length < octets.length := by
  have := h.size
  rw [encodedSize, headerSize] at this
  split at this <;> try split at this
  all_goals omega

/-- Whatever holds of the elements in the payload of a grouped type holds of the children. -/
theorem forall_of_decodeChildren {P : Element → Prop} {type : UInt8} {payload : Octets}
    {children : List Element} (hc : decodeChildren version type payload = .ok children)
    (hp : decodeAll version payload = .ok children → ∀ child ∈ children, P child) :
    ∀ child ∈ children, P child := by
  cases hg : version.isGrouped type with
  | true =>
    rw [decodeChildren, if_pos hg] at hc
    exact hp hc
  | false =>
    rw [decodeChildren_of_not_isGrouped hg] at hc
    cases hc
    simp

/-- An element that was taken off is sound once the elements in its payload are. -/
private theorem sound_of_unframed {octets rest : Octets} {element : Element}
    (hu : Unframed version octets element rest)
    (hc : decodeChildren version element.type element.payload = .ok element.children)
    (hp : decodeAll version element.payload = .ok element.children →
      ∀ child ∈ element.children, Sound version child) :
    Sound version element ∧ Fits version element :=
  ⟨.intro ⟨hu.shaped, hu.inst, fun _ => hc⟩ (forall_of_decodeChildren hc hp), hu.fits⟩

/-- Decoded elements are sound and can be written. -/
theorem sound_of_decodeAll {octets : Octets} {elements : List Element}
    (h : decodeAll version octets = .ok elements) :
    ∀ x ∈ elements, Sound version x ∧ Fits version x := by
  -- Both the payload of an element and what goes after it are shorter than the octets.
  induction hn : octets.length using Nat.strongRecOn generalizing octets elements with
  | _ n ih =>
    cases octets with
    | nil =>
      rw [decodeAll] at h
      cases h
      simp
    | cons o octets =>
      obtain ⟨element, rest, more, hd, hm, rfl⟩ := decodeAll_cons_eq_ok h
      obtain ⟨hu, hc⟩ := unframed_of_decode hd
      intro x hx
      rcases List.mem_cons.1 hx with rfl | hx
      · refine sound_of_unframed hu hc fun hp child hchild => ?_
        exact (ih _ (hn ▸ hu.payload_lt) hp rfl child hchild).1
      · exact ih _ (hn ▸ hu.rest_lt) hm rfl x hx

theorem sound_of_decode {octets rest : Octets} {element : Element}
    (h : decode version octets = .ok (element, rest)) :
    Sound version element ∧ Fits version element := by
  obtain ⟨hu, hc⟩ := unframed_of_decode h
  exact sound_of_unframed hu hc fun hp child hchild => (sound_of_decodeAll hp child hchild).1

/-- Decoded elements take as many octets as they were read from. -/
theorem size_of_decodeAll {octets : Octets} {elements : List Element}
    (h : decodeAll version octets = .ok elements) :
    total (elements.map (encodedSize version)) = octets.length := by
  induction hn : octets.length using Nat.strongRecOn generalizing octets elements with
  | _ n ih =>
    cases octets with
    | nil =>
      rw [decodeAll] at h
      cases h
      exact hn ▸ rfl
    | cons o octets =>
      obtain ⟨element, rest, more, hd, hm, rfl⟩ := decodeAll_cons_eq_ok h
      have hu := (unframed_of_decode hd).1
      rw [List.map_cons, total, ih _ (hn ▸ hu.rest_lt) hm rfl, ← hn]
      exact hu.size

/-! ## What cannot be read -/

private theorem supported_of_splitFrame {octets : Octets} (number : UInt8) :
    splitFrame version octets ≠ .error (.unsupportedVersion number) := by
  have hpayload : ∀ type inst n body,
      splitPayload type inst n body ≠ .error (.unsupportedVersion number) := by
    intro type inst n body h
    rw [splitPayload] at h
    split at h <;> cases h
  intro h
  unfold splitFrame at h
  split at h
  · cases h
  · split at h
    · cases h
    · split at h <;> cases h
    · split at h
      · exact hpayload _ _ _ _ h
      · exact hpayload _ _ _ _ h
      · cases h

/-- Elements that cannot be read say nothing about the version of the datagram. -/
theorem supported_of_decodeAll {octets : Octets} (number : UInt8) :
    decodeAll version octets ≠ .error (.unsupportedVersion number) := by
  induction hn : octets.length using Nat.strongRecOn generalizing octets with
  | _ n ih =>
    intro h
    cases octets with
    | nil =>
      rw [decodeAll] at h
      cases h
    | cons o octets =>
      simp only [decodeAll_cons, decode, bind_eq_error, bind_eq_ok, pure_eq, Prod.exists,
        Except.ok.injEq, Prod.mk.injEq, reduceCtorEq, and_false, exists_false, or_false] at h
      rcases h with (h | ⟨shell, rest, hs, h⟩) | ⟨element, rest, ⟨shell, more, hs, -, -, -, rfl⟩, h⟩
      · exact supported_of_splitFrame number h
      · have hlt := length_splitFrame hs
        rw [decodeChildren] at h
        split at h
        · exact ih _ (by omega) rfl h
        · cases h
      · have hlt := length_splitFrame hs
        exact ih _ (by omega) rfl h

end Element
end GtpControl
