import GtpControl.Proofs.ElementFraming

/-! # The grammar of elements on the wire

Octets are decoded exactly when they are well-formed encodings in a row. They are so in one way only,
and what goes after them is decoded as if it stood alone. -/
namespace GtpControl.Element
variable {version : Version}

/-! ## The grammar -/

/-- What stands between a type and a payload of this length: the length, and where there are instances
an octet whose lower half is the instance. -/
inductive Announces (version : Version) (length : Nat) : Octets → UInt8 → Prop where
  | plain {high low : UInt8} (hv : version.hasInstance = false)
    (hn : Octets.toNat [high, low] = length) : Announces version length [high, low] 0
  | marked {high low mark : UInt8} (hv : version.hasInstance = true)
    (hn : Octets.toNat [high, low] = length) :
    Announces version length [high, low, mark] (mark &&& 0x0f)

/-- The octets of one element, into whose payload nobody looks. -/
inductive Frame (version : Version) : Octets → Element → Prop where
  | fixed {type : UInt8} {payload : Octets}
    (hw : version.form? type = some (.fixed payload.length)) :
    Frame version (type :: payload) ⟨type, 0, payload, []⟩
  | sized {type inst : UInt8} {front payload : Octets} (hl : version.hasLength type = true)
    (hn : Announces version payload.length front inst) :
    Frame version (type :: (front ++ payload)) ⟨type, inst, payload, []⟩

/-- Well-formed encodings, and what they encode. The payload of a grouped type is a row of them. -/
inductive Encodes (version : Version) : Octets → Element → Prop where
  | leaf {octets : Octets} {shell : Element} (frame : Frame version octets shell)
    (hg : version.isGrouped shell.type = false) : Encodes version octets shell
  | group {octets : Octets} {shell : Element} {parts : List (Octets × Element)}
    (frame : Frame version octets shell) (hg : version.isGrouped shell.type = true)
    (hp : ∀ part ∈ parts, Encodes version part.1 part.2)
    (payload : shell.payload = parts.flatMap (·.1)) :
    Encodes version octets { shell with children := parts.map (·.2) }

/-- The octets are these encodings in a row. -/
structure Splits (version : Version) (octets : Octets) (parts : List (Octets × Element)) : Prop where
  encodes : ∀ part ∈ parts, Encodes version part.1 part.2
  row : octets = parts.flatMap (·.1)

/-! ## Frames -/

/-- A frame is taken off whole, whatever goes after it. -/
theorem Frame.splitFrame {part : Octets} {shell : Element} (frame : Frame version part shell)
    (rest : Octets) : splitFrame version (part ++ rest) = .ok (shell, rest) := by
  cases frame with
  | fixed hw =>
    unfold Element.splitFrame
    simp only [List.cons_append, hw]
    rw [Octets.split?_append rfl]
    rfl
  | sized hl hn =>
    unfold Element.splitFrame
    cases hn with
    | plain hv hn | marked hv hn =>
      rcases form_of_hasLength hl with hf | hf <;>
      · simp only [List.cons_append, List.nil_append, hf, hv, hn]
        exact splitPayload_append rfl rest

private theorem frame_of_splitPayload {type inst : UInt8} {front body rest : Octets} {n : Nat}
    {shell : Element} (hl : version.hasLength type = true)
    (hn : ∀ payload : Octets, payload.length = n → Announces version payload.length front inst)
    (h : splitPayload type inst n body = .ok (shell, rest)) :
    ∃ part, type :: (front ++ body) = part ++ rest ∧ Frame version part shell := by
  obtain ⟨payload, rfl, hp, rfl⟩ := splitPayload_eq_ok h
  exact ⟨type :: (front ++ payload), by simp, .sized hl (hn payload hp)⟩

/-- What is taken off is a frame. -/
theorem frame_of_splitFrame {octets rest : Octets} {shell : Element}
    (h : splitFrame version octets = .ok (shell, rest)) :
    ∃ part, octets = part ++ rest ∧ Frame version part shell := by
  unfold splitFrame at h
  split at h
  · cases h
  · next type body =>
    split at h
    · cases h
    · next width hf =>
      split at h
      · cases h
      · next payload more hs =>
        cases h
        obtain ⟨rfl, rfl⟩ := Octets.split?_eq_some.1 hs
        exact ⟨type :: payload, rfl, .fixed hf⟩
    · next form hnf hf =>
      have hl : version.hasLength type = true := by
        rw [Version.hasLength_eq, hf]
        cases form with
        | fixed width => exact (hnf width rfl).elim
        | _ => rfl
      split at h
      · next hv => exact frame_of_splitPayload hl (fun _ hp => .marked hv hp.symm) h
      · next hv => exact frame_of_splitPayload hl (fun _ hp => .plain hv hp.symm) h
      · cases h

/-! ## Well-formed encodings are decoded -/

private theorem decodeAll_append_of_decode {parts : List (Octets × Element)}
    (h : ∀ part ∈ parts, ∀ rest, decode version (part.1 ++ rest) = .ok (part.2, rest))
    (rest : Octets) : decodeAll version (parts.flatMap (·.1) ++ rest) =
      (decodeAll version rest).map (parts.map (·.2) ++ ·) := by
  induction parts with
  | nil => cases h : decodeAll version rest <;> simp [h, Except.map]
  | cons part parts ih =>
    rw [List.forall_mem_cons] at h
    have hd := h.1 (parts.flatMap (·.1) ++ rest)
    rw [List.flatMap_cons, List.append_assoc, decodeAll_of_decode hd, ih h.2]
    cases decodeAll version rest <;> rfl

theorem Encodes.decode {part : Octets} {element : Element} (h : Encodes version part element)
    (rest : Octets) : decode version (part ++ rest) = .ok (element, rest) := by
  induction h generalizing rest with
  | leaf frame hg =>
    rw [Element.decode, frame.splitFrame]
    simp only [ok_bind, decodeChildren_of_not_isGrouped hg]
    cases frame <;> rfl
  | group frame hg hp payload ih =>
    have hc := decodeAll_append_of_decode ih []
    rw [List.append_nil, decodeAll] at hc
    rw [Element.decode, frame.splitFrame]
    simp only [ok_bind, decodeChildren, hg, if_true, payload, hc]
    simp [Except.map]

theorem Splits.decodeAll_append {octets : Octets} {parts : List (Octets × Element)}
    (h : Splits version octets parts) (more : Octets) :
    decodeAll version (octets ++ more) = (decodeAll version more).map (parts.map (·.2) ++ ·) := by
  rw [h.row]
  exact decodeAll_append_of_decode (fun part hm => (h.encodes part hm).decode) more

theorem Splits.decodeAll {octets : Octets} {parts : List (Octets × Element)}
    (h : Splits version octets parts) : decodeAll version octets = .ok (parts.map (·.2)) := by
  have happ := h.decodeAll_append []
  rwa [List.append_nil, Element.decodeAll, pure_eq, Except.map, List.append_nil] at happ

/-! ## What is decoded is a well-formed encoding -/

/-- An element that was decoded has an encoding once the elements in its payload have. -/
private theorem encodes_of_decode {octets rest : Octets} {element : Element}
    (h : decode version octets = .ok (element, rest))
    (hp : decodeAll version element.payload = .ok element.children →
      ∃ parts, Splits version element.payload parts ∧ parts.map (·.2) = element.children) :
    ∃ part, octets = part ++ rest ∧ Encodes version part element := by
  simp only [Element.decode, bind_eq_ok, pure_eq, Except.ok.injEq, Prod.mk.injEq, Prod.exists] at h
  obtain ⟨shell, more, hs, children, hc, rfl, rfl⟩ := h
  obtain ⟨part, rfl, frame⟩ := frame_of_splitFrame hs
  refine ⟨part, rfl, ?_⟩
  cases hg : version.isGrouped shell.type with
  | true =>
    rw [decodeChildren, if_pos hg] at hc
    obtain ⟨parts, splits, rfl⟩ := hp hc
    exact .group frame hg splits.encodes splits.row
  | false =>
    rw [decodeChildren_of_not_isGrouped hg] at hc
    cases hc
    have hleaf := Encodes.leaf frame hg
    cases frame <;> exact hleaf

theorem splits_of_decodeAll {octets : Octets} {elements : List Element}
    (h : decodeAll version octets = .ok elements) :
    ∃ parts, Splits version octets parts ∧ parts.map (·.2) = elements := by
  -- Both the payload of an element and what goes after it are shorter than the octets.
  induction hn : octets.length using Nat.strongRecOn generalizing octets elements with
  | _ n ih =>
    cases octets with
    | nil =>
      rw [Element.decodeAll] at h
      cases h
      exact ⟨[], ⟨by simp, rfl⟩, rfl⟩
    | cons o octets =>
      obtain ⟨element, rest, more, hd, hm, rfl⟩ := decodeAll_cons_eq_ok h
      have hu := (unframed_of_decode hd).1
      obtain ⟨part, hpart, encodes⟩ := encodes_of_decode hd fun hp =>
        ih _ (hn ▸ hu.payload_lt) hp rfl
      obtain ⟨parts, splits, rfl⟩ := ih _ (hn ▸ hu.rest_lt) hm rfl
      refine ⟨(part, element) :: parts, ⟨?_, ?_⟩, rfl⟩
      · exact List.forall_mem_cons.2 ⟨encodes, splits.encodes⟩
      · rw [hpart, List.flatMap_cons, ← splits.row]

/-! ## The decomposition -/

theorem Encodes.ne_nil {part : Octets} {element : Element} (h : Encodes version part element) :
    part ≠ [] := by
  rintro rfl
  have hd := h.decode []
  simp [Element.decode, splitFrame] at hd

/-- No octets are well-formed encodings in a row in two ways. -/
theorem Splits.unique {octets : Octets} {parts parts' : List (Octets × Element)}
    (h : Splits version octets parts) (h' : Splits version octets parts') : parts = parts' := by
  induction parts generalizing octets parts' with
  | nil =>
    cases parts' with
    | nil => rfl
    | cons part' parts' =>
      have hrow := h.row.symm.trans h'.row
      simp only [List.flatMap_nil, List.flatMap_cons, List.nil_eq_append_iff] at hrow
      exact absurd hrow.1 (h'.encodes part' List.mem_cons_self).ne_nil
  | cons part parts ih =>
    obtain ⟨octets', element⟩ := part
    cases parts' with
    | nil =>
      have hrow := h.row.symm.trans h'.row
      simp only [List.flatMap_nil, List.flatMap_cons, List.append_eq_nil_iff] at hrow
      exact absurd hrow.1 (h.encodes _ List.mem_cons_self).ne_nil
    | cons part' parts' =>
      obtain ⟨octets'', element'⟩ := part'
      have hd := (h.encodes _ List.mem_cons_self).decode (parts.flatMap (·.1))
      have hd' := (h'.encodes _ List.mem_cons_self).decode (parts'.flatMap (·.1))
      have hrow := h.row.symm.trans h'.row
      rw [List.flatMap_cons, List.flatMap_cons] at hrow
      dsimp only at hd hd' hrow
      -- The first element is decoded in one way, and leaves the others.
      rw [hrow, hd', Except.ok.injEq, Prod.mk.injEq] at hd
      obtain ⟨rfl, hrest⟩ := hd
      rw [hrest, List.append_left_inj] at hrow
      obtain rfl := hrow
      have hs : Splits version (parts.flatMap (·.1)) parts :=
        ⟨fun p hp => h.encodes p (List.mem_cons_of_mem _ hp), rfl⟩
      have hs' : Splits version (parts.flatMap (·.1)) parts' :=
        ⟨fun p hp => h'.encodes p (List.mem_cons_of_mem _ hp), hrest.symm⟩
      rw [ih hs hs']

/-- Octets are decoded to elements exactly when they are well-formed encodings of them in a row. They are
that in one way only, and after them any other octets are decoded as if they stood alone. -/
theorem decodeAll_grammar (version : Version) :
    (∀ octets elements, decodeAll version octets = .ok elements ↔
      ∃ parts, Splits version octets parts ∧ parts.map (·.2) = elements) ∧
    (∀ octets parts parts', Splits version octets parts → Splits version octets parts' →
      parts = parts') ∧
    ∀ octets elements more, decodeAll version octets = .ok elements →
      decodeAll version (octets ++ more) = (decodeAll version more).map (elements ++ ·) := by
  refine ⟨fun octets elements => ⟨splits_of_decodeAll, ?_⟩, fun _ _ _ => Splits.unique, ?_⟩
  · rintro ⟨parts, splits, rfl⟩
    exact splits.decodeAll
  · intro octets elements more h
    obtain ⟨parts, splits, rfl⟩ := splits_of_decodeAll h
    exact splits.decodeAll_append more

/-- A bearer context whose octets have spare bits set, and a restart counter. -/
private def marked : Octets := [93, 0, 5, 0x31, 73, 0, 1, 0xf0, 5, 3, 0, 1, 0, 7]

/-- What is cut off after them is reported as if they were not there. -/
theorem decodeAll_grammar_marked :
    let elements : List Element :=
      [⟨93, 1, [73, 0, 1, 0xf0, 5], [⟨73, 0, [5], []⟩]⟩, ⟨3, 0, [7], []⟩]
    decodeAll .v2 marked = .ok elements ∧
      (∃ parts, Splits .v2 marked parts ∧ parts.map (·.2) = elements ∧
        ∀ parts', Splits .v2 marked parts' → parts = parts') ∧
      decodeAll .v2 (marked ++ [1, 0, 2]) = .error (.tooShort 4 3) := by
  intro elements
  obtain ⟨hiff, hunique, happend⟩ := decodeAll_grammar .v2
  have hd : decodeAll .v2 marked = .ok elements := by decide +kernel
  obtain ⟨parts, splits, hparts⟩ := (hiff marked elements).1 hd
  refine ⟨hd, ⟨parts, splits, hparts, fun parts' => hunique marked parts parts' splits⟩, ?_⟩
  have hcut : decodeAll .v2 [1, 0, 2] = .error (.tooShort 4 3) := by decide +kernel
  rw [happend marked elements [1, 0, 2] hd, hcut]
  rfl

end GtpControl.Element
