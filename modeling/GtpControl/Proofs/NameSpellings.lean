import GtpControl.Proofs.PointNames

/-! # Access point names on the wire: which octets are the encoding of the name that they are read as

The reader takes labels of any size, puts replacement characters where a label is not text, and joins them by
dots. So it shows the same name for octets that are not its encoding: a label with a dot in it, one that is
not text, and the empty label that stands alone. There are no others. -/
namespace GtpControl.Apn
open Text
variable {name : String} {octets again : Octets} {chars label : List Char} {texts : List (List Char)}

/-- Labels on the wire, each behind its size. -/
def frames (labels : List Octets) : Octets :=
  labels.flatMap fun label => UInt8.ofNat label.length :: label

/-- Well-formed text without a dot. -/
def Undotted (label : Octets) : Prop := ∃ chars, '.' ∉ chars ∧ label = utf8 chars

/-- Labels that are text without dots, up to the end; an empty label does not stand alone. -/
def Spelled (octets : Octets) : Prop :=
  octets ≠ [0] ∧ ∃ labels, octets = frames labels ∧
    ∀ label ∈ labels, label.length < 256 ∧ Undotted label

theorem frames_utf8 (texts : List (List Char)) :
    frames (texts.map utf8) = texts.flatMap encodeLabel := by
  rw [frames, List.flatMap_map]
  rfl

/-- No label has a dot. -/
theorem dot_notMem_of_mem_labels (h : label ∈ labels chars) : '.' ∉ label := by
  induction chars generalizing label with
  | nil =>
    rw [labels, List.mem_singleton] at h
    rw [h]
    exact List.not_mem_nil
  | cons c rest ih =>
    by_cases hc : c = '.'
    · rw [hc, labels_dot, List.mem_cons] at h
      rcases h with rfl | h
      · exact List.not_mem_nil
      · exact ih h
    · obtain ⟨first, more, hrest, hlabels⟩ := labels_cons_of_ne hc rest
      rw [hlabels, List.mem_cons] at h
      rw [hrest] at ih
      rcases h with rfl | h
      · exact List.not_mem_cons_of_ne_of_not_mem (Ne.symm hc) (ih List.mem_cons_self)
      · exact ih (List.mem_cons_of_mem _ h)

/-- Texts without dots are the labels of what they are joined to. -/
theorem labels_join (hne : texts ≠ []) (h : ∀ text ∈ texts, '.' ∉ text) :
    labels (".".intercalate (texts.map String.ofList)).toList = texts := by
  rw [labels_eq_splitOn, toList_join]
  exact List.splitOn_intercalate '.' h hne

/-- Labels that are text are the texts of some characters, taken all together. -/
theorem exists_texts {labels : List Octets} (h : ∀ label ∈ labels, label.length < 256 ∧ Undotted label) :
    ∃ texts : List (List Char), labels = texts.map utf8 ∧
      ∀ text ∈ texts, (utf8 text).length < 256 ∧ '.' ∉ text := by
  induction labels with
  | nil => exact ⟨[], rfl, List.forall_mem_nil _⟩
  | cons label labels ih =>
    obtain ⟨⟨hsize, text, hdot, rfl⟩, hrest⟩ := List.forall_mem_cons.1 h
    obtain ⟨texts, rfl, htexts⟩ := ih hrest
    exact ⟨text :: texts, rfl, List.forall_mem_cons.2 ⟨⟨hsize, hdot⟩, htexts⟩⟩

/-- What is written is spelled out. -/
theorem spelled_of_encode (h : encode name = .ok octets) : Spelled octets := by
  by_cases hne : name = ""
  · subst hne
    cases encode_empty.symm.trans h
    exact ⟨List.cons_ne_nil _ _ |>.symm, [], rfl, List.forall_mem_nil _⟩
  · have hsize := (decode_encode hne h).1
    obtain ⟨hlabels, rfl⟩ := (encode_eq_ok hne).1 h
    refine ⟨fun hzero => hne ?_, (labels name.toList).map utf8, (frames_utf8 _).symm, ?_⟩
    · rw [hzero, List.length_singleton] at hsize
      exact String.utf8ByteSize_eq_zero_iff.1 (by omega)
    · refine List.forall_mem_map.2 fun label hlabel => ?_
      exact ⟨length_lt_of_isLabel (hlabels label hlabel), label, dot_notMem_of_mem_labels hlabel, rfl⟩

/-- Octets that are spelled out are written again as they were, if the name that they show can be written. -/
theorem encode_of_spelled (hs : Spelled octets) (hd : decode octets = .ok name)
    (he : encode name = .ok again) : again = octets := by
  obtain ⟨halone, parts, rfl, hparts⟩ := hs
  obtain ⟨texts, rfl, htexts⟩ := exists_texts hparts
  rw [frames_utf8] at hd halone ⊢
  have hname : ".".intercalate (texts.map String.ofList) = name :=
    Except.ok.inj ((decode_encodeLabels fun text ht => (htexts text ht).1).symm.trans hd)
  cases texts with
  | nil =>
    subst hname
    exact (Except.ok.inj (encode_empty.symm.trans he)).symm
  | cons text texts =>
    have hjoin := labels_join (List.cons_ne_nil text texts) fun text ht => (htexts text ht).2
    rw [hname] at hjoin
    have hne : name ≠ "" := by
      rintro rfl
      -- The empty name has one label, which is empty, and that one would stand alone.
      rw [← hjoin] at halone
      exact halone rfl
    rw [← ((encode_eq_ok hne).1 he).2, hjoin]

/-- When octets are read as a name that can be written, they are what is written exactly when they are
spelled out: labels of well-formed text without dots, and no empty label alone. -/
theorem written_iff_spelled (hd : decode octets = .ok name) (he : encode name = .ok again) :
    again = octets ↔ Spelled octets :=
  ⟨fun h => spelled_of_encode (h ▸ he), fun h => encode_of_spelled h hd he⟩

/-- Two ideographs and a label of ASCII are spelled out; a dot in a label is not. -/
theorem written_iff_spelled_ideographs :
    (decode [6, 0xe6, 0x97, 0xa5, 0xe6, 0x9c, 0xac, 2, 0x6a, 0x70] = .ok "日本.jp" ∧
      encode "日本.jp" = .ok [6, 0xe6, 0x97, 0xa5, 0xe6, 0x9c, 0xac, 2, 0x6a, 0x70] ∧
      Spelled [6, 0xe6, 0x97, 0xa5, 0xe6, 0x9c, 0xac, 2, 0x6a, 0x70]) ∧
    decode [3, 0x61, 0x2e, 0x62] = .ok "a.b" ∧ encode "a.b" = .ok [1, 0x61, 1, 0x62] ∧
      ¬ Spelled [3, 0x61, 0x2e, 0x62] := by
  have hd : decode [6, 0xe6, 0x97, 0xa5, 0xe6, 0x9c, 0xac, 2, 0x6a, 0x70] = .ok "日本.jp" := by
    decide +kernel
  have he : encode "日本.jp" = .ok [6, 0xe6, 0x97, 0xa5, 0xe6, 0x9c, 0xac, 2, 0x6a, 0x70] := by decide
  have hd' : decode [3, 0x61, 0x2e, 0x62] = .ok "a.b" := by decide +kernel
  have he' : encode "a.b" = .ok [1, 0x61, 1, 0x62] := by decide
  exact ⟨⟨hd, he, (written_iff_spelled hd he).1 rfl⟩, hd', he',
    fun h => absurd ((written_iff_spelled hd' he').2 h) (by decide)⟩

/-- Octets that are not text, a dot in a label and a lone empty label: each is read as a name that is
written otherwise. -/
theorem respelled_names :
    (decode [1, 0xff] = .ok "\ufffd" ∧ encode "\ufffd" = .ok [3, 0xef, 0xbf, 0xbd]) ∧
      (decode [3, 0x61, 0x2e, 0x62] = .ok "a.b" ∧ encode "a.b" = .ok [1, 0x61, 1, 0x62]) ∧
      (decode [0] = .ok "" ∧ encode "" = .ok []) ∧
      ¬ ∀ octets name again, decode octets = .ok name → encode name = .ok again → again = octets := by
  have hd : decode [1, 0xff] = .ok "\ufffd" := by decide +kernel
  have he : encode "\ufffd" = .ok [3, 0xef, 0xbf, 0xbd] := by decide
  exact ⟨⟨hd, he⟩, ⟨by decide +kernel, by decide⟩, ⟨by decide +kernel, encode_empty⟩,
    fun h => absurd (h _ _ _ hd he) (by decide)⟩

end GtpControl.Apn
