import GtpControl.Message
import GtpControl.Proofs.ElementOrigins
import GtpControl.Proofs.HeaderFraming
import GtpControl.Proofs.Slotting

/-! # Framing of messages: datagrams and messages say the same

A message that was read, or that was made of elements, is read back from its encoding. -/
namespace GtpControl

/-! ## Kinds and types -/

namespace Version

/-- A kind that is found by a type has that type. -/
theorem type?_of_kindOf {version : Version} {type : UInt8} {kind : Kind}
    (h : version.kindOf type = kind) (hk : kind ≠ .generic) : kind.type? = some type := by
  rw [kindOf] at h
  cases hf : version.kinds.find? (·.type? == some type) with
  | none =>
    rw [hf] at h
    exact absurd h.symm hk
  | some found =>
    rw [hf] at h
    cases h
    have hfound := List.find?_some hf
    exact beq_iff_eq.1 hfound

/-- A kind with slots is found by its type. -/
theorem kindOf_type : ∀ (version : Version), ∀ kind ∈ version.kinds,
    version.kindOf (kind.type?.getD 0) = kind := by
  intro version
  cases version <;> decide

end Version

namespace Message
variable {message : Message} {octets : Octets}

/-! ## Elements of messages -/

theorem header_ofElements (header : Header) (kind : Kind) (elements : List Element) :
    (ofElements header kind elements).header = header := rfl

theorem elements_ofElements_perm (header : Header) (kind : Kind) (elements : List Element) :
    (ofElements header kind elements).elements.Perm elements :=
  Slot.ordered_takeAll_perm (header.version.layout kind) elements

/-- A message is made of its own elements, in the order in which they are sent. -/
theorem ofElements_elements (header : Header) (kind : Kind) (elements : List Element) :
    ofElements header kind (ofElements header kind elements).elements =
      ofElements header kind elements := by
  have h := Slot.takeAll_ordered (header.version.layout kind) elements
  simp only [Slot.ordered] at h
  simp only [ofElements, Message.elements, h]

/-- A message that gets one more element is the one made of that many. -/
theorem put_ofElements (header : Header) (kind : Kind) (elements : List Element) (x : Element) :
    (ofElements header kind elements).put x = ofElements header kind (elements ++ [x]) := by
  simp only [put, ofElements, Slot.takeAll_append_one]
  cases Slot.put? x (Slot.takeAll (header.version.layout kind) elements).1 <;> rfl

private theorem foldl_put (header : Header) (kind : Kind) (elements more : List Element) :
    more.foldl (fun message x => message.put x) (ofElements header kind elements) =
      ofElements header kind (elements ++ more) := by
  induction more generalizing elements with
  | nil => rw [List.append_nil, List.foldl_nil]
  | cons x more ih => rw [List.foldl_cons, put_ofElements, ih, List.append_assoc, List.singleton_append]

/-- A message is filled by one element after the other. None is lost, those of one type and instance
stay in their order, and a message of its own elements is the message again. -/
theorem slotting_ofElements (header : Header) (kind : Kind) (elements : List Element) :
    let message := ofElements header kind elements
    message = elements.foldl (fun message x => message.put x) (ofElements header kind []) ∧
      message.elements.Perm elements ∧
      (∀ type inst, message.elements.filter (fun x => x.type == type && x.inst == inst) =
        elements.filter fun x => x.type == type && x.inst == inst) ∧
      ofElements header kind message.elements = message := by
  intro message
  have hfold := foldl_put header kind [] elements
  rw [List.nil_append] at hfold
  exact ⟨hfold.symm, elements_ofElements_perm header kind elements,
    Slot.filter_ordered_takeAll (header.version.layout kind) elements,
    ofElements_elements header kind elements⟩

/-- An element of a field is accepted by a slot of the field. -/
theorem exists_slot_of_mem_field {header : Header} {kind : Kind} {elements : List Element}
    {field : Field} {x : Element} (h : x ∈ (ofElements header kind elements).field field) :
    ∃ slot ∈ header.version.layout kind, slot.field = field ∧ slot.accepts x = true := by
  simp only [Message.field, ofElements, List.mem_flatMap, List.mem_filter, beq_iff_eq] at h
  obtain ⟨entry, ⟨hm, hf⟩, hx⟩ := h
  obtain ⟨hs, ha⟩ := Slot.accepts_of_mem_takeAll hm
  exact ⟨entry.1, hs, hf, ha x hx⟩

/-- The slots of a field decide the type of its elements. -/
theorem type_of_mem_field {header : Header} {kind : Kind} {elements : List Element} {field : Field}
    {type : UInt8} {x : Element}
    (ht : ∀ slot ∈ header.version.layout kind, slot.field = field → slot.type = type)
    (h : x ∈ (ofElements header kind elements).field field) : x.type = type := by
  obtain ⟨slot, hslot, hfield, ha⟩ := exists_slot_of_mem_field h
  simp only [Slot.accepts, Bool.and_eq_true, beq_iff_eq] at ha
  rw [← ht slot hslot hfield]
  exact ha.1

theorem mem_elements_of_mem_field {message : Message} {field : Field} {x : Element}
    (h : x ∈ message.field field) : x ∈ message.elements := by
  simp only [Message.field, List.mem_flatMap, List.mem_filter] at h
  obtain ⟨entry, ⟨hm, -⟩, hx⟩ := h
  exact List.mem_append_left _ (List.mem_flatMap.2 ⟨entry, hm, hx⟩)

theorem payloadSize_eq (message : Message) :
    message.payloadSize = (message.elements.flatMap (Element.octets message.version)).length := by
  rw [payloadSize, ← total_map_length]
  simp only [Element.length_octets]

/-- A message can be written when its header and all its elements can. -/
theorem encode_eq_ok :
    message.encode = .ok octets ↔ (∀ x ∈ message.elements, Element.Fits message.version x) ∧
      ∃ front, message.header.encode message.payloadSize = .ok front ∧
        octets = front ++ message.elements.flatMap (Element.octets message.version) := by
  simp only [encode, bind_eq_ok, Element.mapM_encode_eq_ok, pure_eq, Except.ok.injEq]
  constructor
  · rintro ⟨front, hf, parts, ⟨fits, rfl⟩, rfl⟩
    exact ⟨fits, front, hf, by rw [List.flatMap_def]⟩
  · rintro ⟨fits, front, hf, rfl⟩
    exact ⟨front, hf, _, ⟨fits, rfl⟩, by rw [List.flatMap_def]⟩

theorem length_encode (h : message.encode = .ok octets) : octets.length = message.size := by
  obtain ⟨_, front, hf, rfl⟩ := encode_eq_ok.1 h
  rw [List.length_append, Header.length_encode hf, ← payloadSize_eq, size]

/-- A message that cannot be written is too long. -/
theorem tooLarge_of_encode {e : CodecError} (h : message.encode = .error e) :
    ∃ length, e = .tooLarge length := by
  simp only [encode, bind_eq_error, pure_eq, reduceCtorEq, and_false, exists_false, or_false] at h
  rcases h with h | ⟨-, -, h⟩
  · exact ⟨_, (Header.encode_eq_error.1 h).2⟩
  · obtain ⟨x, -, hx⟩ := exists_of_mapM_eq_error h
    rw [Element.encode] at hx
    split at hx
    · cases hx
      exact ⟨_, rfl⟩
    · cases hx

/-! ## Messages that are read again as what they are -/

/-- Header and elements can be read again, the elements are in the order of their slots, and the
type is that of the kind. -/
structure Sound (message : Message) : Prop where
  header : message.header.Sound
  elements : ∀ x ∈ message.elements, Element.Sound message.version x
  slotted : ofElements message.header message.kind message.elements = message
  kind : message.version.kindOf message.type = message.kind

/-- A sound message is read as it was written, whatever goes after it. -/
theorem Sound.parse_encode (sound : Sound message) (h : message.encode = .ok octets)
    (policy : LengthPolicy) (rest : Octets) :
    parse message.version policy (octets ++ rest) = .ok message := by
  obtain ⟨fits, front, hf, rfl⟩ := encode_eq_ok.1 h
  rw [payloadSize_eq] at hf
  have hp : Header.parse message.version policy _ = _ :=
    Header.parse_encode sound.header.values hf policy rest
  have he := Element.decodeAll_octets (fun x hx => (sound.elements x hx).framed) fits
  have hk : message.version.kindOf message.header.type = message.kind := sound.kind
  simp only [parse, parseParts, List.append_assoc, hp, ok_bind, he, pure_eq, hk, sound.slotted]

theorem Sound.parse_v2 (sound : Sound message) (hv : message.version = .v2)
    (h : message.encode = .ok octets) (policy : LengthPolicy) :
    parse .v2 policy octets = .ok message := by
  have hp := sound.parse_encode h policy []
  rwa [hv, List.append_nil] at hp

theorem Sound.parseAny_encode (sound : Sound message) (h : message.encode = .ok octets)
    (policy : LengthPolicy) (rest : Octets) : parseAny policy (octets ++ rest) = .ok message := by
  obtain ⟨_, front, hf, rfl⟩ := encode_eq_ok.1 h
  have hd : Version.detect _ = .ok message.version :=
    Header.detect_encode sound.header hf
      (message.elements.flatMap (Element.octets message.version) ++ rest)
  rw [parseAny, List.append_assoc, hd, ok_bind, ← List.append_assoc]
  exact sound.parse_encode h policy rest

/-- What a reader makes of header and elements is sound. -/
theorem sound_ofElements {header : Header} {kind : Kind} {elements : List Element}
    (hh : header.Sound) (he : ∀ x ∈ elements, Element.Sound header.version x)
    (hk : header.version.kindOf header.type = kind) : Sound (ofElements header kind elements) where
  header := hh
  elements x hx := he x ((elements_ofElements_perm header kind elements).subset hx)
  slotted := ofElements_elements header kind elements
  kind := hk

theorem type_setSequence (sequence : UInt32) (message : Message) :
    (message.setSequence sequence).type = message.type := by
  obtain ⟨header, kind, fields, additional⟩ := message
  cases header <;> rfl

theorem teid?_setSequence (sequence : UInt32) (message : Message) :
    (message.setSequence sequence).teid? = message.teid? := by
  obtain ⟨header, kind, fields, additional⟩ := message
  cases header <;> rfl

theorem payloadSize_setSequence (sequence : UInt32) (message : Message) :
    (message.setSequence sequence).payloadSize = message.payloadSize := by
  obtain ⟨header, kind, fields, additional⟩ := message
  cases header <;> rfl

@[simp] theorem field?_setSequence (sequence : UInt32) (message : Message) (field : Field) :
    (message.setSequence sequence).field? field = message.field? field := rfl

/-- A message may take a sequence number that its header may take. -/
theorem Sound.setSequence_of_header (sound : Sound message) (sequence : UInt32)
    (hh : (message.header.setSequence sequence).Sound) : Sound (message.setSequence sequence) := by
  have hs := congrArg (Message.setSequence sequence) sound.slotted
  obtain ⟨header, kind, fields, additional⟩ := message
  cases header <;> exact ⟨hh, sound.elements, hs, sound.kind⟩

/-- A message of GTPv2 may take any sequence number. -/
theorem Sound.setSequence (sound : Sound message) (hv : message.version = .v2) (sequence : UInt32) :
    Sound (message.setSequence sequence) ∧ (message.setSequence sequence).version = .v2 := by
  have hset := sound.setSequence_of_header sequence
  obtain ⟨header, kind, fields, additional⟩ := message
  cases header with
  | v2 header => exact ⟨hset ⟨sound.header.version, fun _ h => by cases h⟩, rfl⟩
  | _ => cases hv

/-- A message is a header and the elements of the payload after it. -/
theorem parse_eq_ok {version : Version} {policy : LengthPolicy} :
    parse version policy octets = .ok message ↔ ∃ header payload elements,
      Header.parse version policy octets = .ok (header, payload) ∧
        Element.decodeAll version payload = .ok elements ∧
        message = ofElements header (version.kindOf header.type) elements := by
  simp only [parse, parseParts, bind_eq_ok, pure_eq, Except.ok.injEq, Prod.exists, Prod.mk.injEq]
  constructor
  · rintro ⟨_, _, ⟨header, payload, hp, elements, he, rfl, rfl⟩, rfl⟩
    exact ⟨header, payload, elements, hp, he, rfl⟩
  · rintro ⟨header, payload, elements, hp, he, rfl⟩
    exact ⟨header, elements, ⟨header, payload, hp, elements, he, rfl, rfl⟩, rfl⟩

/-! ## Messages that are cut off -/

private theorem header_of_parse_v2 {policy : LengthPolicy}
    (h : parse .v2 policy octets = .ok message) :
    ∃ header payload, V2Header.parse policy octets = .ok (header, payload) ∧
      message.header = .v2 header := by
  obtain ⟨_, _, elements, hp, -, rfl⟩ := parse_eq_ok.1 h
  simp only [Header.parse, bind_eq_ok, pure_eq, Except.ok.injEq, Prod.exists, Prod.mk.injEq] at hp
  obtain ⟨header, payload, hp, rfl, rfl⟩ := hp
  exact ⟨header, payload, hp, rfl⟩

/-- The beginning of a message of GTPv2 has the header of the message. -/
theorem header_of_parse_take {policy policy' : LengthPolicy} {message' : Message} {n : Nat}
    (h : parse .v2 policy octets = .ok message)
    (h' : parse .v2 policy' (octets.take n) = .ok message') : message'.header = message.header := by
  obtain ⟨header, payload, hp, hh⟩ := header_of_parse_v2 h
  obtain ⟨header', payload', hp', hh'⟩ := header_of_parse_v2 h'
  rw [hh, hh', V2Header.header_of_parse_take hp hp']

/-- The beginning of a message of GTPv2 is of that version, even if it cannot be read. -/
theorem supported_of_parse_take {policy policy' : LengthPolicy} {n : Nat} (hn : 0 < n)
    (h : parse .v2 policy octets = .ok message) (number : UInt8) :
    parse .v2 policy' (octets.take n) ≠ .error (.unsupportedVersion number) := by
  obtain ⟨header, payload, hp, -⟩ := header_of_parse_v2 h
  have hhead := (V2Header.unpacked_of_parse hp).flags
  intro h'
  simp only [parse, parseParts, Header.parse, bind_eq_error, bind_eq_ok, pure_eq, Except.ok.injEq,
    Prod.exists, reduceCtorEq, and_false, exists_false, or_false] at h'
  obtain h' | ⟨_, _, -, h'⟩ := h'
  · obtain ⟨needed, available, he⟩ := V2Header.error_of_parse h' fun flags hflags => by
      rw [List.head?_take, if_neg (Nat.pos_iff_ne_zero.1 hn), hhead] at hflags
      cases hflags
      exact header.version_flags
    cases he
  · exact Element.supported_of_decodeAll number h'

/-! ## Reading, writing, reading -/

/-- A message that was read is made of sound elements, and its type decides its kind. -/
theorem exists_ofElements {version : Version} {policy : LengthPolicy}
    (h : parse version policy octets = .ok message) :
    ∃ header elements, header.version = version ∧ (∀ x ∈ elements, Element.Sound version x) ∧
      message = ofElements header (version.kindOf header.type) elements := by
  obtain ⟨header, payload, elements, hp, hd, rfl⟩ := parse_eq_ok.1 h
  exact ⟨header, elements, Header.version_of_parse hp,
    fun x hx => (Element.sound_of_decodeAll hd x hx).1, rfl⟩

theorem kind_of_parse {version : Version} {policy : LengthPolicy}
    (h : parse version policy octets = .ok message) :
    message.version = version ∧ version.kindOf message.type = message.kind := by
  obtain ⟨header, elements, hv, -, rfl⟩ := exists_ofElements h
  exact ⟨hv, rfl⟩

theorem sound_of_mem_of_parse {version : Version} {policy : LengthPolicy}
    (h : parse version policy octets = .ok message) :
    ∀ x ∈ message.elements, Element.Sound version x := by
  obtain ⟨header, elements, -, sound, rfl⟩ := exists_ofElements h
  exact fun x hx => sound x ((elements_ofElements_perm ..).subset hx)

/-- What is said of a message by the datagram that it was read from. -/
theorem sound_of_parseAny {policy : LengthPolicy} (h : parseAny policy octets = .ok message) :
    Sound message ∧ (∀ x ∈ message.elements, Element.Fits message.version x) ∧
      message.header.counted + message.payloadSize ≤ maxLength ∧
      message.size ≤ octets.length := by
  simp only [parseAny, bind_eq_ok] at h
  obtain ⟨version, hv, h⟩ := h
  obtain ⟨header, payload, elements, hp, hd, rfl⟩ := parse_eq_ok.1 h
  obtain ⟨rfl, hheader, hu⟩ := Header.sound_of_parse hv hp
  have hs := Element.sound_of_decodeAll hd
  have hperm := elements_ofElements_perm header (header.version.kindOf header.type) elements
  -- The elements are the ones that were read, so they take as many octets in any order.
  have hsize : (ofElements header (header.version.kindOf header.type) elements).payloadSize =
      payload.length := by
    rw [payloadSize, ← Element.size_of_decodeAll hd]
    exact total_perm (hperm.map _)
  refine ⟨sound_ofElements hheader (fun x hx => (hs x hx).1) rfl, fun x hx => ?_, ?_, ?_⟩
  · exact (hs x (hperm.subset hx)).2
  · rw [hsize]
    exact hu.counted
  · rw [size, hsize]
    exact hu.size

/-- A message that was read can be written, in no more octets than it was read from, and is read
strictly from them as it was. -/
theorem parseAny_encode_parseAny {policy : LengthPolicy} (h : parseAny policy octets = .ok message) :
    ∃ written, message.encode = .ok written ∧ written.length = message.size ∧
      message.size ≤ octets.length ∧ parseAny .strict written = .ok message := by
  obtain ⟨sound, fits, hcounted, hsize⟩ := sound_of_parseAny h
  obtain ⟨front, hf⟩ := Header.exists_encode.2 hcounted
  have he : message.encode = .ok _ := encode_eq_ok.2 ⟨fits, front, hf, rfl⟩
  have hp := sound.parseAny_encode he .strict []
  rw [List.append_nil] at hp
  exact ⟨_, he, length_encode he, hsize, hp⟩

/-- An echo that comes without its sequence mark and too short, its elements out of order. -/
private def shortEcho : Message where
  header := .v1 {
    extended := true, sequenced := false, type := 2, teid := 9, sequence := 7
    extensions := [⟨0xc0, [1, 2]⟩] }
  kind := .echoResponse
  fields := [(.one .recovery 14, [⟨14, 0, [5], []⟩]),
    (.one .privateExtension 255, [⟨255, 0, [0, 1], []⟩])]
  additional := []

theorem parseAny_encode_shortEcho :
    ∃ written, shortEcho.encode = .ok written ∧ written.length = shortEcho.size ∧
      shortEcho.size ≤ 23 ∧ parseAny .strict written = .ok shortEcho := by
  have h : parseAny .lenient [0x34, 2, 0, 200, 0, 0, 0, 9, 0, 7, 0, 0xc0, 1, 1, 2, 0,
      255, 0, 2, 0, 1, 14, 5] = .ok shortEcho := by
    decide +kernel
  exact parseAny_encode_parseAny h

/-! ## New messages -/

@[simp] theorem version_make (version : Version) (kind : Kind) (values : Header.Values)
    (elements : List Element) : (make version kind values elements).version = version :=
  Header.version_make ..

theorem exists_make_eq (version : Version) (kind : Kind) (values : Header.Values)
    (elements : List Element) :
    ∃ header, header.version = version ∧ header.Sound ∧ header.type = kind.type?.getD 0 ∧
      make version kind values elements = ofElements header kind elements :=
  ⟨Header.make version _ _, Header.version_make .., Header.sound_make .., Header.type_make .., rfl⟩

theorem type_make (version : Version) (kind : Kind) (values : Header.Values)
    (elements : List Element) : (make version kind values elements).type = kind.type?.getD 0 :=
  Header.type_make ..

/-- All messages but echoes have an end point number. -/
theorem teid?_make {kind : Kind} (hq : kind ≠ .echoRequest) (hr : kind ≠ .echoResponse)
    (values : Header.Values) (elements : List Element) :
    (make .v2 kind values elements).teid? = some (values.teid.getD 0) := by
  have hheader : ∀ header, (ofElements header kind elements).teid? = header.teid? := fun _ => rfl
  rw [make, hheader]
  · rfl
  · exact hq
  · exact hr

theorem fields_make (version : Version) (kind : Kind) (values : Header.Values)
    (elements : List Element) :
    (make version kind values elements).fields =
      (Slot.takeAll (version.layout kind) elements).1 := by
  obtain ⟨header, rfl, -, -, h⟩ := exists_make_eq version kind values elements
  rw [h, ofElements]

theorem put_make (version : Version) (kind : Kind) (values : Header.Values)
    (elements : List Element) (x : Element) :
    (make version kind values elements).put x = make version kind values (elements ++ [x]) :=
  put_ofElements _ _ _ _

/-- An element that only slots of an empty field accept becomes the element of that field. -/
theorem field_put_make {version : Version} {kind : Kind} (values : Header.Values)
    {elements : List Element} {field : Field} {x : Element}
    (hs : ∃ slot ∈ version.layout kind, slot.accepts x = true)
    (ho : ∀ slot ∈ version.layout kind, slot.accepts x = true → slot.field = field)
    (hn : (make version kind values elements).field field = []) :
    ((make version kind values elements).put x).field field = [x] ∧
      ∀ other, other ≠ field → ((make version kind values elements).put x).field other =
        (make version kind values elements).field other := by
  have hslots := Slot.slots_takeAll (version.layout kind) elements
  have hfields := fields_make version kind values elements
  generalize make version kind values elements = message at hn hfields ⊢
  rw [← hfields] at hslots
  rw [← hslots] at hs ho
  -- The field is empty, so is each of its slots.
  have hempty : ∀ slot held, (slot, held) ∈ message.fields → slot.field = field → held = [] := by
    intro slot held hm hf
    refine List.flatMap_eq_nil_iff.1 hn (slot, held) (List.mem_filter.2 ⟨hm, ?_⟩)
    exact beq_iff_eq.2 hf
  obtain ⟨_, hslot, ha⟩ := hs
  obtain ⟨⟨slot, held⟩, hm, rfl⟩ := List.mem_map.1 hslot
  cases hempty slot held hm (ho slot hslot ha)
  obtain ⟨filled, hput⟩ := Slot.exists_put? hm ha
  obtain ⟨front, slot', held', back, hfront, ha', rfl⟩ := Slot.put?_eq_some hput
  have hm' : (slot', held') ∈ message.fields := by simp [hfront]
  have hf' := ho slot' (List.mem_map_of_mem hm') ha'
  cases hempty slot' held' hm' hf'
  simp only [Message.field, put, hput]
  rw [Message.field, hfront] at hn
  rw [hfront]
  simp only [List.filter_append, List.filter_cons, hf', beq_self_eq_true, if_true,
    List.flatMap_append, List.flatMap_cons, List.append_eq_nil_iff] at hn ⊢
  obtain ⟨hfr, -, hbk⟩ := hn
  refine ⟨by rw [hfr, hbk]; rfl, fun other hne => ?_⟩
  have hb : (field == other) = false := beq_eq_false_iff_ne.2 hne.symm
  simp [hb]

/-- A new message of a kind with slots is sound when its elements are. -/
theorem sound_make {version : Version} {kind : Kind} {elements : List Element}
    (hk : kind ∈ version.kinds) (he : ∀ x ∈ elements, Element.Sound version x)
    (values : Header.Values) : Sound (make version kind values elements) := by
  refine sound_ofElements (Header.sound_make ..) (fun x hx => ?_) ?_
  · rw [Header.version_make]
    exact he x hx
  · rw [Header.version_make, Header.type_make]
    exact Version.kindOf_type version kind hk

/-- A message of elements that can be obtained is read back as the same message of its kind. -/
theorem parseAny_encode_make {version : Version} {kind : Kind} {values : Header.Values}
    {elements : List Element} (hk : kind ∈ version.kinds)
    (he : ∀ x ∈ elements, Element.Built version x)
    (h : (make version kind values elements).encode = .ok octets) :
    parseAny .strict octets = .ok (make version kind values elements) ∧
      (make version kind values elements).version = version ∧
      (make version kind values elements).kind = kind := by
  have sound := sound_make hk (fun x hx => Element.sound_of_built (he x hx)) values
  have hp := sound.parseAny_encode h .strict []
  rw [List.append_nil] at hp
  exact ⟨hp, version_make .., rfl⟩

/-- A request whose bearer numbers are slotted and whose bearer context is not. -/
theorem parseAny_encode_releaseBearers :
    let request := make .v2 .releaseAccessBearersRequest { sequence := 7 }
      [Element.V2.ofEbi 5, Element.V2.ofBearerContext [Element.V2.ofEbi 5], Element.V2.ofEbi 6]
    parseAny .strict [0x48, 170, 0, 27, 0, 0, 0, 0, 0, 0, 7, 0, 73, 0, 1, 0, 5, 73, 0, 1, 0, 6,
      93, 0, 5, 0, 73, 0, 1, 0, 5] = .ok request ∧
      request.version = .v2 ∧ request.kind = .releaseAccessBearersRequest := by
  have hebi : ∀ ebi, Element.Built .v2 (Element.V2.ofEbi ebi) := fun ebi =>
    .ofValue (Element.V2.OfValue.ebi ebi)
  have hbearer : Element.Built .v2 (Element.V2.ofBearerContext [Element.V2.ofEbi 5]) :=
    .grouped 0 rfl (List.forall_mem_singleton.2 (hebi 5))
  refine parseAny_encode_make (by decide) ?_ rfl
  simp only [List.forall_mem_cons]
  exact ⟨hebi 5, hbearer, hebi 6, by simp⟩

end Message
end GtpControl
