import GtpControl.Proofs.Results
import GtpControl.Proofs.Utf8
import GtpControl.Value.Apn

/-! # Access point names: which texts have an encoding, its size, and that it is read as the text

The labels of a text are its parts between dots, and joined by dots they are the text again. Each is written
behind its size, so the whole has an octet for each dot and one more. A reader that follows the sizes finds
the octets of each label, and no other ones. -/
namespace GtpControl.Apn
open Text
variable {apn : String} {label chars : List Char} {ls : List (List Char)} {octets : Octets}

/-! ## Labels -/

theorem labels_ne_nil (chars : List Char) : labels chars ≠ [] := by
  cases chars with
  | nil => simp [labels]
  | cons c rest =>
    rw [labels]
    split
    · simp
    · split <;> simp

theorem labels_dot (rest : List Char) : labels ('.' :: rest) = [] :: labels rest := by
  rw [labels, if_pos rfl]

/-- Any other character belongs to the first label. -/
theorem labels_cons_of_ne {c : Char} (hc : c ≠ '.') (rest : List Char) :
    ∃ label more, labels rest = label :: more ∧ labels (c :: rest) = (c :: label) :: more := by
  obtain ⟨label, more, hrest⟩ := List.exists_cons_of_ne_nil (labels_ne_nil rest)
  refine ⟨label, more, hrest, ?_⟩
  rw [labels, if_neg hc, hrest]

theorem labels_eq_splitOn (chars : List Char) : labels chars = chars.splitOn '.' := by
  induction chars with
  | nil => rfl
  | cons c rest ih =>
    rw [List.splitOn, List.splitOnP_cons_eq_if_modifyHead, ← List.splitOn, ← ih]
    by_cases hc : c = '.'
    · rw [hc, labels_dot, if_pos (beq_self_eq_true _)]
    · obtain ⟨label, more, hrest, hlabels⟩ := labels_cons_of_ne hc rest
      rw [hlabels, hrest, if_neg (by simpa using hc), List.modifyHead_cons]

theorem toList_join (texts : List (List Char)) :
    (".".intercalate (texts.map String.ofList)).toList = ['.'].intercalate texts := by
  have hlists : texts.map (String.toList ∘ String.ofList) = texts := by
    simp [Function.comp_def]
  rw [String.toList_intercalate, List.map_map, hlists]
  rfl

theorem join_labels (chars : List Char) :
    ".".intercalate ((labels chars).map String.ofList) = String.ofList chars := by
  rw [← String.toList_inj, toList_join, labels_eq_splitOn, String.toList_ofList (l := chars)]
  exact List.intercalate_splitOn '.'

theorem isLabel_iff :
    isLabel label = true ↔
      1 ≤ (String.ofList label).utf8ByteSize ∧ (String.ofList label).utf8ByteSize ≤ 63 := by
  have hempty : label.isEmpty = false ↔ 1 ≤ (String.ofList label).utf8ByteSize := by
    rw [Nat.one_le_iff_ne_zero, Ne, String.utf8ByteSize_eq_zero_iff, String.ofList_eq_empty_iff,
      List.isEmpty_eq_false_iff]
  rw [isLabel, length_utf8, Bool.and_eq_true, Bool.not_eq_true', hempty, decide_eq_true_eq, maxLabel]

/-- The size of a label fits in an octet. -/
theorem length_lt_of_isLabel (h : isLabel label = true) : (utf8 label).length < 256 := by
  have hmax := (isLabel_iff.1 h).2
  rw [length_utf8]
  omega

/-! ## Encoding -/

theorem encode_empty : encode "" = .ok [] := rfl

theorem encode_eq_ok (hne : apn ≠ "") :
    encode apn = .ok octets ↔
      (∀ label ∈ labels apn.toList, isLabel label = true) ∧
        (labels apn.toList).flatMap encodeLabel = octets := by
  rw [encode, if_neg (mt String.isEmpty_iff.1 hne), ← List.all_eq_true]
  split
  case isTrue h => simp only [h, true_and, pure_eq, Except.ok.injEq]
  case isFalse h => simp only [h, false_and, throw_eq, reduceCtorEq, Bool.false_eq_true]

@[simp] theorem length_encodeLabel (label : List Char) :
    (encodeLabel label).length = (utf8 label).length + 1 := rfl

theorem length_encodeLabels (chars : List Char) :
    ((labels chars).flatMap encodeLabel).length = (utf8 chars).length + 1 := by
  induction chars with
  | nil => rfl
  | cons c rest ih =>
    by_cases hc : c = '.'
    · have hdot : (String.utf8EncodeChar '.').length = 1 := rfl
      rw [hc, labels_dot, List.flatMap_cons, List.length_append, ih, utf8_cons, List.length_append, hdot,
        length_encodeLabel, utf8_nil, List.length_nil]
      omega
    · obtain ⟨label, more, hrest, hlabels⟩ := labels_cons_of_ne hc rest
      rw [hrest] at ih
      simp only [hlabels, List.flatMap_cons, List.length_append, length_encodeLabel, utf8_cons] at ih ⊢
      omega

/-! ## Decoding -/

/-- The size in front of a label is the one of its octets, if it fits in an octet. -/
theorem split_encodeLabel (h : (utf8 label).length < 256) (rest : Octets) :
    split (encodeLabel label ++ rest) = (split rest).map (utf8 label :: ·) := by
  have hsize : (UInt8.ofNat (utf8 label).length).toNat = (utf8 label).length :=
    UInt8.toNat_ofNat_of_lt' h
  have hfits : ¬ (utf8 label ++ rest).length < (utf8 label).length := by
    rw [List.length_append]
    omega
  rw [encodeLabel, List.cons_append, split, hsize, if_neg hfits, List.take_left, List.drop_left]
  cases split rest <;> rfl

theorem split_encodeLabels (h : ∀ label ∈ ls, (utf8 label).length < 256) :
    split (ls.flatMap encodeLabel) = .ok (ls.map utf8) := by
  induction ls with
  | nil =>
    rw [List.flatMap_nil, split]
    rfl
  | cons label ls ih =>
    obtain ⟨hlabel, hls⟩ := List.forall_mem_cons.1 h
    rw [List.flatMap_cons, split_encodeLabel hlabel, ih hls]
    rfl

theorem decode_encodeLabels (h : ∀ label ∈ ls, (utf8 label).length < 256) :
    decode (ls.flatMap encodeLabel) = .ok (".".intercalate (ls.map String.ofList)) := by
  have hread :
      (ls.map utf8).map (fun label => String.ofList (decodeLossy label)) = ls.map String.ofList := by
    simp only [List.map_map, Function.comp_def, decodeLossy_utf8]
  rw [decode, split_encodeLabels h, ← hread]
  rfl

/-- An encoding is read as the name, and has the octets of the name and one more. -/
theorem decode_encode (hne : apn ≠ "") (h : encode apn = .ok octets) :
    octets.length = apn.utf8ByteSize + 1 ∧ decode octets = .ok apn := by
  obtain ⟨hlabels, rfl⟩ := (encode_eq_ok hne).1 h
  have hsizes : ∀ label ∈ labels apn.toList, (utf8 label).length < 256 := fun label hlabel =>
    length_lt_of_isLabel (hlabels label hlabel)
  rw [length_encodeLabels, length_utf8, decode_encodeLabels hsizes, join_labels, String.ofList_toList]
  exact ⟨rfl, rfl⟩

/-- A name has an encoding exactly when it is empty or each of its parts between dots has one to 63 octets.
The encoding has no octet for the empty name, and one more than any other name; it is read as the name. -/
theorem dotted_name_returns (apn : String) :
    ((∃ octets, encode apn = .ok octets) ↔
      apn = "" ∨ ∀ label ∈ apn.toList.splitOn '.',
        1 ≤ (String.ofList label).utf8ByteSize ∧ (String.ofList label).utf8ByteSize ≤ 63) ∧
    ∀ octets, encode apn = .ok octets →
      octets.length = (if apn = "" then 0 else apn.utf8ByteSize + 1) ∧ decode octets = .ok apn := by
  by_cases hne : apn = ""
  · subst hne
    refine ⟨iff_of_true ⟨[], encode_empty⟩ (.inl rfl), fun octets h => ?_⟩
    cases encode_empty.symm.trans h
    exact ⟨rfl, decode_encodeLabels (List.forall_mem_nil _)⟩
  · refine ⟨?_, fun octets h => ?_⟩
    · simp only [encode_eq_ok hne, exists_and_left, exists_eq', and_true, hne, false_or,
        labels_eq_splitOn, isLabel_iff]
    · rw [if_neg hne]
      exact decode_encode hne h

/-- Octets are counted and not characters: two characters of a label can be five octets. -/
theorem dotted_name_returns_octets :
    encode "é日.x" = .ok [5, 0xc3, 0xa9, 0xe6, 0x97, 0xa5, 1, 0x78] ∧
      decode [5, 0xc3, 0xa9, 0xe6, 0x97, 0xa5, 1, 0x78] = .ok "é日.x" ∧
      ¬ ∃ octets, encode "a..b" = .ok octets := by
  have he : encode "é日.x" = .ok [5, 0xc3, 0xa9, 0xe6, 0x97, 0xa5, 1, 0x78] := by decide
  refine ⟨he, ((dotted_name_returns "é日.x").2 _ he).2, fun h => ?_⟩
  exact absurd ((dotted_name_returns "a..b").1.1 h) (by decide)

end GtpControl.Apn
