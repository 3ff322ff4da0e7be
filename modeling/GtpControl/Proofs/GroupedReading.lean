import GtpControl.Proofs.ElementOrigins

/-! # Reading what was grouped: which groups are read back from their encoding

A group is made without a look at its type. It is read back as it was, unless its children are too large
together to be written, or its type has no length field: then the empty payload that it gets is not one of
the type. -/
namespace GtpControl.Element
variable {version : Version} {type inst : UInt8} {children : List Element}

/-- A type that is not grouped gets no children. -/
theorem group_of_not_isGrouped (hg : version.isGrouped type = false) (inst : UInt8)
    (children : List Element) :
    group version type inst children = plain version type inst [] := by
  rw [group, addChildren, if_neg]
  exact fun h => absurd (hg.symm.trans h) Bool.false_ne_true

/-- The children of a grouped type are written into its payload. -/
theorem group_of_isGrouped (hg : version.isGrouped type = true) (inst : UInt8)
    (children : List Element) :
    group version type inst children =
      ⟨type, version.maskInstance inst, children.flatMap (octets version), children⟩ := by
  rw [group, addChildren, if_pos (show version.isGrouped (plain ..).type = true from hg)]
  rfl

theorem type_group (version : Version) (type inst : UInt8) (children : List Element) :
    (group version type inst children).type = type := by
  rw [group, addChildren]
  split <;> rfl

/-- A group cannot be written exactly when its children are too large together. -/
theorem encode_group_eq_error {e : CodecError} :
    encode version (group version type inst children) = .error e ↔
      version.isGrouped type = true ∧ maxLength < total (children.map (encodedSize version)) ∧
        e = .tooLarge (total (children.map (encodedSize version))) := by
  have hsize : (children.flatMap (octets version)).length =
      total (children.map (encodedSize version)) := by
    rw [← total_map_length]
    simp only [length_octets]
  rw [encode, type_group]
  cases hg : version.isGrouped type with
  | true =>
    rw [group_of_isGrouped hg, Version.hasLength_of_isGrouped hg, ← hsize]
    generalize (children.flatMap (octets version)).length = size
    by_cases hlt : maxLength < size <;> simp [hlt, eq_comm]
  | false =>
    rw [group_of_not_isGrouped hg]
    simp [plain]

/-- What is written of a group of a type with a length field is the group. -/
theorem decode_encode_group {octets : Octets} (hl : version.hasLength type = true)
    (hc : version.isGrouped type = true → ∀ child ∈ children, Built version child)
    (he : encode version (group version type inst children) = .ok octets) :
    decode version octets = .ok (group version type inst children, []) := by
  have hb : Built version (group version type inst children) := by
    cases hg : version.isGrouped type with
    | true => exact .grouped inst hl (hc hg)
    | false =>
      rw [group_of_not_isGrouped hg, ← group_of_not_isGrouped hg inst []]
      exact .grouped inst hl (by simp)
  obtain ⟨fits, rfl⟩ := encode_eq_ok.1 he
  have hd := decode_octets (sound_of_built hb).framed fits []
  rwa [List.append_nil] at hd

/-- A type without a length field stands on the wire alone, and what goes with it is missed there. -/
theorem encode_group_of_not_hasLength (hl : version.hasLength type = false) (inst : UInt8)
    (children : List Element) :
    encode version (group version type inst children) = .ok [type] ∧
      decode version [type] = .error (match version.fixedWidth? type with
        | some width => .tooShort (1 + width) 1
        | none => .invalidType type) := by
  have hg : version.isGrouped type = false := by
    by_contra hg
    rw [Version.hasLength_of_isGrouped (Bool.of_not_eq_false hg)] at hl
    cases hl
  rw [group_of_not_isGrouped hg]
  refine ⟨by simp [encode, octets, plain, hl], ?_⟩
  obtain hf | ⟨width, hw, hf⟩ := form_of_not_hasLength hl
  · simp [decode, splitFrame, Version.fixedWidth?, hf]
  · have hs : Octets.split? width [] = none := Octets.split?_eq_none.2 (Nat.pos_of_ne_zero hw)
    simp [decode, splitFrame, Version.fixedWidth?, hf, hs]

/-- A group can be written unless its children are too large together. A group of a type with a length
field is then read back as it was. Of any other type nothing but the type is written, and reading fails:
a fixed width is missed, or the type is not known. -/
theorem reading_of_group (version : Version) (type inst : UInt8) (children : List Element)
    (hc : version.isGrouped type = true → ∀ child ∈ children, Built version child) :
    (∀ e, encode version (group version type inst children) = .error e ↔
      version.isGrouped type = true ∧ maxLength < total (children.map (encodedSize version)) ∧
        e = .tooLarge (total (children.map (encodedSize version)))) ∧
    ∀ octets, encode version (group version type inst children) = .ok octets →
      (version.hasLength type = true →
        decode version octets = .ok (group version type inst children, [])) ∧
      (version.hasLength type = false → octets = [type] ∧
        decode version octets = .error (match version.fixedWidth? type with
          | some width => .tooShort (1 + width) 1
          | none => .invalidType type)) := by
  refine ⟨fun e => encode_group_eq_error, fun octets he => ⟨fun hl => ?_, fun hl => ?_⟩⟩
  · exact decode_encode_group hl hc he
  · obtain ⟨halone, hmissed⟩ := encode_group_of_not_hasLength hl inst children
    cases halone.symm.trans he
    exact ⟨rfl, hmissed⟩

/-- Bearers in a group are read back; a cause and an unknown type without their payloads are not. -/
theorem reading_of_group_bearers :
    decode .v2 [109, 0, 14, 1, 73, 0, 1, 0, 5, 93, 0, 5, 0, 73, 0, 1, 0, 6] =
        .ok (group .v2 109 1 [V2.ofEbi 5, V2.ofBearerContext [V2.ofEbi 6]], []) ∧
      decode .v1 [1] = .error (.tooShort 2 1) ∧ decode .prime [3] = .error (.invalidType 3) := by
  have hebi : ∀ ebi, Built .v2 (V2.ofEbi ebi) := fun ebi => .ofValue (V2.OfValue.ebi ebi)
  have hbearer : Built .v2 (V2.ofBearerContext [V2.ofEbi 6]) :=
    .grouped 0 rfl (List.forall_mem_singleton.2 (hebi 6))
  have hread := reading_of_group .v2 109 1 [V2.ofEbi 5, V2.ofBearerContext [V2.ofEbi 6]]
    fun _ => List.forall_mem_cons.2 ⟨hebi 5, List.forall_mem_singleton.2 hbearer⟩
  have hcause := reading_of_group .v1 1 0 [V1.ofRecovery 7] fun hg => by cases hg
  have hunknown := reading_of_group .prime 3 0 [] fun hg => by cases hg
  exact ⟨(hread.2 _ rfl).1 rfl, ((hcause.2 [1] rfl).2 rfl).2, ((hunknown.2 [3] rfl).2 rfl).2⟩

/-- A group of the type of a cause is written, and cannot be read. -/
theorem unread_group_cause :
    ¬∀ (version : Version) (type inst : UInt8) (children : List Element),
      (∃ e, encode version (group version type inst children) = .error e) ∨
        ∃ octets rest, encode version (group version type inst children) = .ok octets ∧
          decode version octets = .ok (group version type inst children, rest) := by
  intro h
  have hw : encode .v1 (group .v1 1 0 []) = .ok [1] := rfl
  have hr : decode .v1 [1] = .error (.tooShort 2 1) := rfl
  obtain ⟨e, he⟩ | ⟨octets, rest, he, hd⟩ := h .v1 1 0 []
  · cases hw.symm.trans he
  · cases hw.symm.trans he
    cases hr.symm.trans hd

end GtpControl.Element
