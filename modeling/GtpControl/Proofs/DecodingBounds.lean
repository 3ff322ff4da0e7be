import GtpControl.Proofs.ElementGrammar

/-! # Bounds of decoding: every element takes octets of its own

Octets that are decoded are shared out among the elements of the tree, so that there are not more
elements, and they are not nested deeper, than the octets have room for. Whether octets can be decoded or
not, the decoder comes to an end after as many frames as they have room for. -/
namespace GtpControl

/-- The fewest octets that an element takes: its header and, without a length field, an octet more. -/
def Version.leastElement : Version → Nat
  | .v2 => 4
  | .v0 | .v1 | .prime => 2

namespace Element
variable {version : Version} {element shell : Element} {octets rest : Octets}
  {elements : List Element}

/-! ## Trees of elements -/

mutual

/-- An element and all that are in it, each before its children. -/
def nodes : Element → List Element
  | ⟨type, inst, payload, children⟩ => ⟨type, inst, payload, children⟩ :: nodesAll children

def nodesAll : List Element → List Element
  | [] => []
  | element :: elements => nodes element ++ nodesAll elements

end

mutual

/-- How many elements, each in the one before, there are at most. -/
def depth : Element → Nat
  | ⟨_, _, _, children⟩ => depthAll children + 1

def depthAll : List Element → Nat
  | [] => 0
  | element :: elements => max (depth element) (depthAll elements)

end

theorem nodes_eq (element : Element) : element.nodes = element :: nodesAll element.children := by
  cases element
  rw [nodes]

mutual

/-- The elements of a longest chain are all different nodes. -/
theorem depth_le_length_nodes : (element : Element) → element.depth ≤ element.nodes.length
  | ⟨type, inst, payload, children⟩ => by
    rw [depth, nodes, List.length_cons]
    exact Nat.succ_le_succ (depthAll_le_length_nodesAll children)

theorem depthAll_le_length_nodesAll :
    (elements : List Element) → depthAll elements ≤ (nodesAll elements).length
  | [] => Nat.le_refl 0
  | element :: elements => by
    have hfirst := depth_le_length_nodes element
    have hothers := depthAll_le_length_nodesAll elements
    rw [depthAll, nodesAll, List.length_append]
    omega

end

/-! ## Octets of each element -/

/-- The octets that an element does not share with its children. -/
def ownOctets (version : Version) (element : Element) : Nat :=
  headerSize version element.type +
    if version.isGrouped element.type then 0 else element.payload.length

/-- The octets of all payloads of elements that are not grouped, at any depth. -/
def leafOctets (version : Version) (elements : List Element) : Nat :=
  total (((nodesAll elements).filter fun x => !version.isGrouped x.type).map (·.payload.length))

/-- Octets are shared out among the elements that they are decoded to, at any depth. -/
theorem length_of_decodeAll (h : decodeAll version octets = .ok elements) :
    octets.length = total ((nodesAll elements).map (ownOctets version)) := by
  induction hn : octets.length using Nat.strongRecOn generalizing octets elements with
  | _ n ih =>
    cases octets with
    | nil =>
      rw [decodeAll] at h
      cases h
      exact hn.symm
    | cons o octets =>
      obtain ⟨element, rest, more, hd, hm, rfl⟩ := decodeAll_cons_eq_ok h
      obtain ⟨hu, hc⟩ := unframed_of_decode hd
      have hrest := ih _ (hn ▸ hu.rest_lt) hm rfl
      have hsize := hu.size
      have hown : element.encodedSize version =
          ownOctets version element + total ((nodesAll element.children).map (ownOctets version)) := by
        rw [encodedSize, ownOctets]
        cases hg : version.isGrouped element.type with
        | true =>
          rw [decodeChildren, if_pos hg] at hc
          rw [ih _ (hn ▸ hu.payload_lt) hc rfl]
          simp
        | false =>
          rw [decodeChildren_of_not_isGrouped hg] at hc
          have hchildren : element.children = [] := (Except.ok.inj hc).symm
          simp [hchildren, nodesAll, total]
      rw [nodesAll, nodes_eq, List.cons_append, List.map_cons, List.map_append, total, total_append]
      omega

private theorem total_ownOctets_v2 (elements : List Element) :
    total (elements.map (ownOctets .v2)) = 4 * elements.length +
      total ((elements.filter fun x => !Version.v2.isGrouped x.type).map (·.payload.length)) := by
  induction elements with
  | nil => rfl
  | cons element elements ih =>
    have hheader : headerSize .v2 element.type = 4 := rfl
    rw [List.map_cons, total, ih, List.length_cons, ownOctets, hheader]
    cases hg : Version.v2.isGrouped element.type with
    | true =>
      rw [List.filter_cons_of_neg (by simp [hg])]
      simp only [if_true]
      omega
    | false =>
      rw [List.filter_cons_of_pos (by simp [hg]), List.map_cons, total]
      simp only [Bool.false_eq_true, if_false]
      omega

/-! ## Steps of the decoder -/

theorem leastElement_le_headerSize {type : UInt8} (hl : version.hasLength type = true) :
    version.leastElement ≤ headerSize version type := by
  rw [headerSize, if_pos hl]
  cases version <;> decide

theorem Unframed.leastElement_le (h : Unframed version octets element rest) :
    version.leastElement ≤ element.encodedSize version := by
  rw [encodedSize]
  cases hl : version.hasLength element.type with
  | true => exact Nat.le_add_right_of_le (leastElement_le_headerSize hl)
  | false =>
    have hleast : version.leastElement = 2 := by
      cases version with
      | v2 => cases hl
      | v0 | v1 | prime => rfl
    -- Without a length field, the width of the type is all that there is after it.
    have hpayload : element.payload.length ≠ 0 := by
      have hshaped := h.shaped
      rw [Shaped] at hshaped
      obtain hf | ⟨width, hw, hf⟩ := form_of_not_hasLength hl <;> rw [hf] at hshaped
      · cases hshaped
      · exact fun hzero => hw (hshaped.symm.trans hzero)
    have hheader : headerSize version element.type = 1 := by simp [headerSize, hl]
    omega

/-- What is left at each turn of the loop that decodes octets. -/
inductive Turn (version : Version) (octets : Octets) : Octets → Prop where
  | first : Turn version octets octets
  | next {left rest : Octets} {element : Element} (turn : Turn version octets left)
    (h : decode version left = .ok (element, rest)) : Turn version octets rest

/-- A payload whose elements are decoded in one of these turns. -/
inductive Descends (version : Version) (octets : Octets) : Octets → Prop where
  | payload {left rest : Octets} {shell : Element} (turn : Turn version octets left)
    (h : splitFrame version left = .ok (shell, rest))
    (hg : version.isGrouped shell.type = true) : Descends version octets shell.payload

/-- A step of the loop passes the octets of one element. -/
theorem leastElement_le_of_decode (h : decode version octets = .ok (element, rest)) :
    rest.length + version.leastElement ≤ octets.length := by
  have hu := (unframed_of_decode h).1
  have hleast := hu.leastElement_le
  have hsize := hu.size
  omega

theorem Turn.length_le {left : Octets} (turn : Turn version octets left) :
    left.length ≤ octets.length := by
  induction turn with
  | first => exact Nat.le_refl _
  | next turn h ih =>
    have hstep := leastElement_le_of_decode h
    omega

theorem Descends.length_lt {payload : Octets} (h : Descends version octets payload) :
    payload.length < octets.length := by
  cases h with
  | payload turn hs hg =>
    have hpayload := (unframed_of_splitFrame hs).payload_lt
    have hleft := turn.length_le
    omega

theorem wellFounded_descends (version : Version) :
    WellFounded fun payload octets => Descends version octets payload :=
  Subrelation.wf Descends.length_lt (measure List.length).wf

/-! ## The decoder with a count -/

/-- The decoder, with the number of frames that it takes off until it comes to an end. -/
def decodeCounting (version : Version) : Octets → Nat × Coded (List Element)
  | [] => (0, pure [])
  | first :: following =>
    match h : splitFrame version (first :: following) with
    | .error e => (0, throw e)
    | .ok (shell, rest) =>
      have := length_splitFrame h
      let inner :=
        if version.isGrouped shell.type then decodeCounting version shell.payload else (0, pure [])
      match inner.2 with
      | .error e => (inner.1 + 1, throw e)
      | .ok children =>
        let more := decodeCounting version rest
        (inner.1 + 1 + more.1, ({ shell with children } :: ·) <$> more.2)
termination_by octets => octets.length
decreasing_by
  all_goals
    simp only [List.length_cons] at this ⊢
    omega

/-- What a count of frames says of a decoder's result: there is room for them in the octets, and if these
are decoded, the frames are those of the elements. -/
structure Counts (version : Version) (octets : Octets) (count : Nat)
    (result : Coded (List Element)) : Prop where
  room : version.leastElement * count ≤ octets.length
  elements : ∀ elements, result = .ok elements → count = (nodesAll elements).length

/-- The frames in the payload of an element, and its own, have room in the octets that it takes. -/
private theorem exists_inner (hu : Unframed version octets shell rest)
    (ih : version.isGrouped shell.type = true →
      (decodeCounting version shell.payload).2 = decodeAll version shell.payload ∧
        Counts version shell.payload (decodeCounting version shell.payload).1
          (decodeAll version shell.payload)) :
    ∃ inner, (if version.isGrouped shell.type then decodeCounting version shell.payload
        else (0, pure [])) = (inner, decodeChildren version shell.type shell.payload) ∧
      version.leastElement * (inner + 1) ≤ shell.encodedSize version ∧
      ∀ children, decodeChildren version shell.type shell.payload = .ok children →
        inner = (nodesAll children).length := by
  have hleast := hu.leastElement_le
  cases hg : version.isGrouped shell.type with
  | true =>
    obtain ⟨hresult, counts⟩ := ih hg
    have hheader := leastElement_le_headerSize (Version.hasLength_of_isGrouped hg)
    have hroom := counts.room
    simp only [if_true, decodeChildren, hg]
    refine ⟨(decodeCounting version shell.payload).1, Prod.ext rfl hresult, ?_, counts.elements⟩
    rw [Nat.mul_succ, encodedSize]
    omega
  | false =>
    rw [decodeChildren_of_not_isGrouped hg]
    refine ⟨0, rfl, ?_, by rintro _ ⟨⟩; rfl⟩
    rwa [Nat.zero_add, Nat.mul_one]

/-- The count does not change the result. -/
theorem decodeCounting_spec (version : Version) (octets : Octets) :
    (decodeCounting version octets).2 = decodeAll version octets ∧
      Counts version octets (decodeCounting version octets).1 (decodeAll version octets) := by
  induction hn : octets.length using Nat.strongRecOn generalizing octets with
  | _ n ih =>
    cases octets with
    | nil =>
      rw [decodeCounting, decodeAll]
      exact ⟨rfl, Nat.zero_le _, by rintro _ ⟨⟩; rfl⟩
    | cons o octets =>
      rw [decodeCounting, decodeAll_cons, decode]
      split
      · next e hs =>
        rw [hs]
        exact ⟨rfl, Nat.zero_le _, by rintro _ ⟨⟩⟩
      · next shell rest hs =>
        have hu := unframed_of_splitFrame hs
        have hsize := hu.size
        obtain ⟨hmore, more⟩ := ih _ (hn ▸ hu.rest_lt) rest rfl
        have hrest := more.room
        obtain ⟨inner, hinner, hroom, hnodes⟩ :=
          exists_inner hu fun _ => ih _ (hn ▸ hu.payload_lt) shell.payload rfl
        simp only [hs, ok_bind, hinner]
        cases hc : decodeChildren version shell.type shell.payload with
        | error e =>
          refine ⟨rfl, ?_, by rintro _ ⟨⟩⟩
          dsimp only
          omega
        | ok children =>
          rw [hnodes children hc] at hroom ⊢
          simp only [ok_bind, pure_eq, hmore]
          refine ⟨?_, ?_, ?_⟩
          · cases decodeAll version rest <;> rfl
          · rw [Nat.mul_add]
            omega
          · intro elements h
            obtain ⟨others, hm, hcons⟩ := bind_eq_ok.1 h
            cases hcons
            rw [more.elements others hm, nodesAll, nodes, List.length_append, List.length_cons]

/-! ## Bounds -/

/-- Octets of GTPv2 elements are four for each element, at any depth, and the payloads of those that are
not groups, so that neither number nor depth of the elements goes beyond a quarter of the octets. Whatever
octets a decoder is given, it descends only into payloads that are shorter, which cannot go on for ever;
each step of its loop passes four octets of GTPv2, and two of any other version, or more; and it takes off
no more frames than there is room for, which in the end are the elements. -/
theorem decoding_bounds :
    (∀ octets elements, decodeAll .v2 octets = .ok elements →
      octets.length = 4 * (nodesAll elements).length + leafOctets .v2 elements ∧
        (nodesAll elements).length ≤ octets.length / 4 ∧
        depthAll elements ≤ octets.length / 4) ∧
    (∀ version octets payload, Descends version octets payload →
      payload.length < octets.length) ∧
    (∀ version, WellFounded fun payload octets => Descends version octets payload) ∧
    (∀ version octets element rest, decode version octets = .ok (element, rest) →
      rest.length + (if version = .v2 then 4 else 2) ≤ octets.length) ∧
    ∀ version octets, (decodeCounting version octets).2 = decodeAll version octets ∧
      Counts version octets (decodeCounting version octets).1 (decodeAll version octets) := by
  refine ⟨fun octets elements h => ?_, fun _ _ _ => Descends.length_lt, wellFounded_descends,
    fun version octets element rest h => ?_, decodeCounting_spec⟩
  · have hlength := length_of_decodeAll h
    rw [total_ownOctets_v2, ← leafOctets] at hlength
    have hdepth := depthAll_le_length_nodesAll elements
    exact ⟨hlength, by omega, by omega⟩
  · have hstep := leastElement_le_of_decode h
    cases version <;> exact hstep

/-- Two groups without anything in them, one in the other, and a restart counter. -/
private def sparse : Octets := [93, 0, 4, 0, 109, 0, 0, 0, 3, 0, 1, 0, 7]

/-- Three elements in thirteen octets, of which one is a payload that is not a group; octets that are cut
off within the last are not decoded after two frames. -/
theorem decoding_bounds_sparse :
    sparse.length = 4 * 3 + 1 ∧ Descends .v2 sparse [109, 0, 0, 0] ∧
      (decodeCounting .v2 (sparse.take 12)).2 = .error (.invalidLength 1 0) ∧
      4 * (decodeCounting .v2 (sparse.take 12)).1 ≤ 12 := by
  obtain ⟨hlength, -, -, -, hcount⟩ := decoding_bounds
  let elements : List Element := [⟨93, 0, [109, 0, 0, 0], [⟨109, 0, [], []⟩]⟩, ⟨3, 0, [7], []⟩]
  have hd : decodeAll .v2 sparse = .ok elements := by decide +kernel
  have hs : splitFrame .v2 sparse = .ok (⟨93, 0, [109, 0, 0, 0], []⟩, [3, 0, 1, 0, 7]) := by
    decide +kernel
  obtain ⟨hresult, counts⟩ := hcount .v2 (sparse.take 12)
  refine ⟨(hlength sparse elements hd).1, .payload .first hs (by decide), ?_, counts.room⟩
  rw [hresult]
  decide +kernel

end Element
end GtpControl
