import GtpControl.Proofs.ElementGrammar
import GtpControl.Proofs.ElementOrigins

/-! # Payloads of grouped elements: how far they are the encoding of the children

A payload that was received stays as it is until the children change. It is their encoding but for
spare bits, which the children do not have. -/
namespace GtpControl.Element
variable {version : Version} {element : Element}

/-! ## Payloads in step with their children -/

/-- At every depth, a payload holds the children that the element has, if these can be written. -/
inductive InStep (version : Version) : Element → Prop where
  | intro {element : Element}
    (payload : version.isGrouped element.type = true →
      (∀ child ∈ element.children, Fits version child) →
        decodeAll version element.payload = .ok element.children)
    (children : ∀ child ∈ element.children, InStep version child) : InStep version element

theorem InStep.child {child : Element} (h : InStep version element)
    (hc : child ∈ element.children) : InStep version child := by
  cases h with
  | intro _ children => exact children child hc

theorem InStep.payload (h : InStep version element) (hg : version.isGrouped element.type = true)
    (fits : ∀ child ∈ element.children, Fits version child) :
    decodeAll version element.payload = .ok element.children := by
  cases h with
  | intro payload _ => exact payload hg fits

/-- Sound elements that can be written are in step, and so are all the elements in them. -/
theorem inStep_of_sound (sound : Sound version element) (fits : Fits version element) :
    InStep version element := by
  induction sound with
  | intro framed children ih =>
    have hc := framed.children fits
    refine .intro (fun hg _ => ?_) fun child hm => ih child hm ?_
    · rwa [decodeChildren, if_pos hg] at hc
    · exact forall_of_decodeChildren hc (fun hp child hm => (sound_of_decodeAll hp child hm).2) child hm

theorem inStep_of_leaf (hg : version.isGrouped element.type = false) (hc : element.children = []) :
    InStep version element :=
  .intro (fun h => absurd (hg.symm.trans h) Bool.false_ne_true) (by simp [hc])

/-- A change of the children makes the payload follow. -/
private theorem inStep_setChildren {children : List Element} (element : Element)
    (h : ∀ child ∈ children, Sound version child ∧ InStep version child) :
    InStep version (element.setChildren version children) :=
  .intro (fun _ fits => decodeAll_octets (fun child hc => (h child hc).1.framed) fits)
    fun child hc => (h child hc).2

private theorem inStep_addChildren {more : List Element} (sound : Sound version element)
    (h : InStep version element) (hm : ∀ child ∈ more, Sound version child ∧ InStep version child) :
    InStep version (element.addChildren version more) := by
  rw [addChildren]
  split
  · refine inStep_setChildren element fun child hc => ?_
    rcases List.mem_append.1 hc with hc | hc
    · exact ⟨sound.child hc, h.child hc⟩
    · exact hm child hc
  · exact h

private theorem inStep_removeChild (type inst : UInt8) (sound : Sound version element)
    (h : InStep version element) : InStep version (element.removeChild version type inst).2 := by
  rw [removeChild]
  split
  · split
    · next found rest ht =>
      refine inStep_setChildren element fun child hc => ?_
      have hm := (perm_of_takeFirst ht).subset (List.mem_cons_of_mem found hc)
      exact ⟨sound.child hm, h.child hm⟩
    · exact h
  · exact h

private theorem leaf_of_ofValue (h : V2.OfValue element) :
    Version.v2.isGrouped element.type = false ∧ element.children = [] := by
  cases h with
  | imsi h | mei h | msisdn h | apn h | servingNetwork h =>
    simp only [V2.ofImsi, V2.ofMei, V2.ofMsisdn, V2.ofApn, V2.ofServingNetwork, bind_eq_ok, pure_eq,
      Except.ok.injEq] at h
    obtain ⟨_, -, rfl⟩ := h
    exact ⟨rfl, rfl⟩
  | _ => exact ⟨rfl, rfl⟩

/-- However an element was obtained, its payload is in step. -/
theorem inStep_of_built (h : Built .v2 element) : InStep .v2 element := by
  induction h with
  | decoded h => exact inStep_of_sound (sound_of_decode h).1 (sound_of_decode h).2
  | made h => exact inStep_of_sound (sound_of_make h) (fits_of_make h)
  | ofValue h => exact inStep_of_leaf (leaf_of_ofValue h).1 (leaf_of_ofValue h).2
  | @grouped type children inst ht hc ih =>
    rw [group, addChildren]
    split
    · exact inStep_setChildren _ fun child hm => ⟨sound_of_built (hc child hm), ih child hm⟩
    · next hg => exact inStep_of_leaf (by simpa using hg) rfl
  | added h hm ih ihm =>
    exact inStep_addChildren (sound_of_built h) ih fun child hc =>
      ⟨sound_of_built (hm child hc), ihm child hc⟩
  | reduced type inst h ih => exact inStep_removeChild type inst (sound_of_built h) ih
  | removed h hr ih => exact ih.child ((sound_removeChild _ _ (sound_of_built h)).2 _ hr)
  | child _ hc ih => exact ih.child hc
  | instanced inst _ ih => exact .intro (fun hg fits => ih.payload hg fits) fun _ hc => ih.child hc

/-! ## Octets that were received, and those that are written again -/

/-- The element with the instance that a reader takes from the octet: the upper half of it is spare. -/
def clearSpare (element : Element) : Element := element.withInstance .v2 element.inst

/-- The payload is the encoding of the children, if they have one. -/
def Exact (element : Element) : Prop :=
  ∀ encoded, element.children.mapM (encode .v2) = .ok encoded → element.payload = encoded.flatten

private theorem octets_v2 (element : Element) : element.octets .v2 =
    element.type :: (Octets.ofNat 2 (min element.payload.length maxLength) ++
      element.inst :: element.payload) := by
  simp [octets, Version.hasLength, Version.hasInstance]

private theorem encode_shell {high low mark : UInt8} {type : UInt8} {payload : Octets}
    (children : List Element) (hn : Octets.toNat [high, low] = payload.length) :
    encode .v2 ⟨type, mark, payload, children⟩ =
      .ok (type :: ([high, low, mark] ++ payload)) := by
  have hfits : payload.length ≤ maxLength := hn ▸ toNat_two_le high low
  refine encode_eq_ok.2 ⟨fun _ => hfits, ?_⟩
  rw [octets_v2, Nat.min_eq_left hfits, ← hn, Octets.ofNat_toNat (show [high, low].length = 2 from rfl)]
  rfl

/-- The octets of a frame are those that are written of it, with the instance octet that they have. -/
private theorem Frame.exists_encode {part : Octets} {shell : Element} (frame : Frame .v2 part shell)
    (children : List Element) : ∃ written : Element,
      written.clearSpare = { shell with children } ∧ encode .v2 written = .ok part := by
  cases frame with
  | @fixed type payload hw =>
    have hl : Version.v2.hasLength type = true := rfl
    rcases form_of_hasLength hl with hf | hf <;> rw [hf] at hw <;> cases hw
  | @sized type inst front payload hl hn =>
    cases hn with
    | plain hv => cases hv
    | @marked high low mark hv hn => exact ⟨⟨type, mark, payload, children⟩, rfl, encode_shell _ hn⟩

private theorem Encodes.exists_encode {part : Octets} {element : Element}
    (h : Encodes .v2 part element) :
    ∃ written, written.clearSpare = element ∧ encode .v2 written = .ok part := by
  cases h with
  | leaf frame =>
    obtain ⟨written, hc, he⟩ := frame.exists_encode element.children
    refine ⟨written, hc.trans ?_, he⟩
    cases element
    rfl
  | group frame => exact frame.exists_encode _

private theorem Splits.exists_encode {octets : Octets} {parts : List (Octets × Element)}
    (h : Splits .v2 octets parts) : ∃ written : List Element,
      written.map clearSpare = parts.map (·.2) ∧
        written.mapM (encode .v2) = .ok (parts.map (·.1)) := by
  obtain ⟨encodes, -⟩ := h
  induction parts with
  | nil => exact ⟨[], rfl, rfl⟩
  | cons part parts ih =>
    rw [List.forall_mem_cons] at encodes
    obtain ⟨first, hfirst, he⟩ := encodes.1.exists_encode
    obtain ⟨written, hwritten, hes⟩ := ih encodes.2
    refine ⟨first :: written, by rw [List.map_cons, hfirst, hwritten]; rfl, ?_⟩
    rw [mapM_eq_ok] at hes ⊢
    exact .cons he hes

/-! ## What tells them apart -/

private theorem flatMap_eq_iff {α β : Type} {f g : α → List β} {xs : List α}
    (hl : ∀ x ∈ xs, (f x).length = (g x).length) :
    xs.flatMap f = xs.flatMap g ↔ ∀ x ∈ xs, f x = g x := by
  induction xs with
  | nil => simp
  | cons x xs ih =>
    rw [List.forall_mem_cons] at hl ⊢
    rw [List.flatMap_cons, List.flatMap_cons, ← ih hl.2]
    exact ⟨fun h => List.append_inj h hl.1, fun ⟨hx, hxs⟩ => by rw [hx, hxs]⟩

private theorem spare_eq_iff : ∀ o : UInt8, o = o &&& 0x0f ↔ o &&& 0xf0 = 0 :=
  forall_octet (by decide +kernel)

private theorem octets_clearSpare (element : Element) :
    element.octets .v2 = element.clearSpare.octets .v2 ↔ element.inst &&& 0xf0 = 0 := by
  rw [← spare_eq_iff, octets_v2, octets_v2]
  simp [clearSpare, withInstance, Version.maskInstance, Version.hasInstance]

private theorem flatten_of_mapM {elements : List Element} {encoded : List Octets}
    (h : elements.mapM (encode .v2) = .ok encoded) :
    encoded.flatten = elements.flatMap (octets .v2) := by
  rw [(mapM_encode_eq_ok.1 h).2, List.flatMap_def]

private theorem flatten_eq_iff {written : List Element} {parts encoded : List Octets}
    (hw : written.mapM (encode .v2) = .ok parts)
    (he : (written.map clearSpare).mapM (encode .v2) = .ok encoded) :
    parts.flatten = encoded.flatten ↔ ∀ x ∈ written, x.inst &&& 0xf0 = 0 := by
  rw [flatten_of_mapM hw, flatten_of_mapM he, List.flatMap_map, flatMap_eq_iff]
  · simp only [octets_clearSpare]
  · intro x _
    rw [length_octets, length_octets]
    rfl

/-! ## Payloads -/

private theorem exact_setChildren (children : List Element) (element : Element) :
    (element.setChildren .v2 children).Exact :=
  fun _ h => (flatten_of_mapM h).symm

theorem exact_addChildren (more : List Element) (hg : Version.v2.isGrouped element.type = true) :
    (element.addChildren .v2 more).Exact := by
  rw [addChildren, if_pos hg]
  exact exact_setChildren _ element

theorem exact_removeChild {type inst : UInt8} {child : Element}
    (h : (element.removeChild .v2 type inst).1 = some child) :
    (element.removeChild .v2 type inst).2.Exact := by
  rw [removeChild] at h ⊢
  split
  · next hg =>
    rw [if_pos hg] at h
    split at h
    · exact exact_setChildren _ element
    · cases h
  · next hg =>
    rw [if_neg hg] at h
    cases h

/-- A grouped element whose children can be written has a payload made of them in order, each with some
octet for its instance. The payload is their encoding exactly when no spare bit is set in these octets, and
always is after the children have changed. -/
theorem payload_of_built {encoded : List Octets} (hb : Built .v2 element)
    (hg : Version.v2.isGrouped element.type = true)
    (he : element.children.mapM (encode .v2) = .ok encoded) :
    (∃ (written : List Element) (parts : List Octets), written.map clearSpare = element.children ∧
      written.mapM (encode .v2) = .ok parts ∧ element.payload = parts.flatten ∧
        (element.payload = encoded.flatten ↔ ∀ x ∈ written, x.inst &&& 0xf0 = 0)) ∧
    (∀ more, (element.addChildren .v2 more).Exact) ∧
    ∀ type inst child, (element.removeChild .v2 type inst).1 = some child →
      (element.removeChild .v2 type inst).2.Exact := by
  refine ⟨?_, fun more => exact_addChildren more hg, fun _ _ _ => exact_removeChild⟩
  have fits := (mapM_encode_eq_ok.1 he).1
  obtain ⟨parts, splits, hparts⟩ := splits_of_decodeAll ((inStep_of_built hb).payload hg fits)
  obtain ⟨written, hwritten, hencode⟩ := splits.exists_encode
  rw [hparts] at hwritten
  have hpayload : element.payload = (parts.map (·.1)).flatten := by
    rw [splits.row, List.flatMap_def]
  refine ⟨written, parts.map (·.1), hwritten, hencode, hpayload, ?_⟩
  rw [hpayload]
  exact flatten_eq_iff hencode (hwritten ▸ he)

/-- A bearer context as it was received, with spare bits set in the instance octet of its bearer. -/
private def received : Octets := [93, 0, 5, 0, 73, 0, 1, 0xf0, 5]

private def bearer : Element := ⟨73, 0, [5], []⟩

private def context : Element := ⟨93, 0, [73, 0, 1, 0xf0, 5], [bearer]⟩

/-- Its payload is made of the bearer with another octet for its instance, and gives that octet up as soon
as the bearer is taken out and another put in. -/
theorem payload_of_built_spare :
    Built .v2 context ∧ Version.v2.isGrouped context.type = true ∧
    context.children.mapM (encode .v2) = .ok [[73, 0, 1, 0, 5]] ∧
    (∃ (written : List Element) (parts : List Octets), written.map clearSpare = context.children ∧
      written.mapM (encode .v2) = .ok parts ∧ context.payload = parts.flatten ∧
        (context.payload = [73, 0, 1, 0, 5] ↔ ∀ x ∈ written, x.inst &&& 0xf0 = 0)) ∧
    (context.addChildren .v2 [bearer]).Exact ∧ (context.removeChild .v2 73 0).2.Exact := by
  have hd : decode .v2 received = .ok (context, []) := by decide +kernel
  have hb : Built .v2 context := .decoded hd
  have hg : Version.v2.isGrouped context.type = true := by decide
  have he : context.children.mapM (encode .v2) = .ok [[73, 0, 1, 0, 5]] := by decide
  obtain ⟨hpayload, hadd, hremove⟩ := payload_of_built hb hg he
  exact ⟨hb, hg, he, hpayload, hadd [bearer], hremove 73 0 bearer (by decide)⟩

/-- A payload that was received need not be the encoding of the children that it holds. -/
theorem not_exact_received : ∃ element : Element,
    decode .v2 [93, 0, 5, 0, 73, 0, 1, 0xf0, 5] = .ok (element, []) ∧ Built .v2 element ∧
      Version.v2.isGrouped element.type = true ∧ (∀ child ∈ element.children, Fits .v2 child) ∧
      ¬element.Exact := by
  have hd : decode .v2 received = .ok (context, []) := by decide +kernel
  have he : context.children.mapM (encode .v2) = .ok [[73, 0, 1, 0, 5]] := by decide
  refine ⟨context, hd, .decoded hd, by decide, (mapM_encode_eq_ok.1 he).1, fun exact => ?_⟩
  exact absurd (exact _ he) (by decide)

end GtpControl.Element
