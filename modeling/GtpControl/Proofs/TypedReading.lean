import GtpControl.Proofs.MessageFraming

/-! # Reading as one kind of message and reading by the message type

A datagram can be read as a message of a given kind, which looks at the message type last, or as whatever
its type says, by the table of the version. The two agree, since the table lists each kind with slots under
the type of the kind, and under no other. -/
namespace GtpControl

/-! ## The tables of message types -/

namespace Version
variable {version : Version} {kind : Kind} {type expected : UInt8}

/-- The kind of a message, type by type. -/
def dispatch (version : Version) (type : UInt8) : Kind :=
  match version with
  | .v0 =>
    match type with
    | 1 => .echoRequest
    | 2 => .echoResponse
    | 20 => .deletePdpContextRequest
    | 21 => .deletePdpContextResponse
    | _ => .generic
  | .v1 =>
    match type with
    | 1 => .echoRequest
    | 2 => .echoResponse
    | 16 => .createPdpContextRequest
    | 17 => .createPdpContextResponse
    | 20 => .deletePdpContextRequest
    | 21 => .deletePdpContextResponse
    | _ => .generic
  | .v2 =>
    match type with
    | 1 => .echoRequest
    | 2 => .echoResponse
    | 32 => .createSessionRequest
    | 33 => .createSessionResponse
    | 34 => .modifyBearerRequest
    | 35 => .modifyBearerResponse
    | 36 => .deleteSessionRequest
    | 37 => .deleteSessionResponse
    | 130 => .contextRequest
    | 170 => .releaseAccessBearersRequest
    | 171 => .releaseAccessBearersResponse
    | _ => .generic
  | .prime =>
    match type with
    | 1 => .echoRequest
    | 2 => .echoResponse
    | 4 => .nodeAliveRequest
    | 5 => .nodeAliveResponse
    | 240 => .dataRecordTransferRequest
    | 241 => .dataRecordTransferResponse
    | _ => .generic

/-- The table finds the kind that has slots and the type, if there is one. -/
theorem kindOf_eq_dispatch (version : Version) :
    ∀ type, version.kindOf type = version.dispatch type := by
  cases version <;> exact forall_octet (by decide +kernel)

/-- A kind with slots has a type of its own. -/
theorem exists_type_of_mem_kinds (hk : kind ∈ version.kinds) :
    ∃ expected, kind.type? = some expected := by
  have hall : ∀ version : Version, ∀ kind ∈ version.kinds, kind.type?.isSome = true := by
    intro version
    cases version <;> decide
  exact Option.isSome_iff_exists.1 (hall version kind hk)

/-- A kind with slots is listed under its type, and under no other. -/
theorem dispatch_eq_iff (hk : kind ∈ version.kinds) (ht : kind.type? = some expected) :
    version.dispatch type = kind ↔ type = expected := by
  rw [← kindOf_eq_dispatch]
  constructor
  · intro h
    have hne : kind ≠ .generic := by
      rintro rfl
      cases ht
    exact Option.some.inj ((type?_of_kindOf h hne).symm.trans ht)
  · rintro rfl
    have hfound := kindOf_type version kind hk
    rwa [ht] at hfound

end Version

/-! ## One reader and the other -/

/-- The type in a header that was read is the second octet of the datagram. -/
theorem Header.type_of_parse {header : Header} {version : Version} {policy : LengthPolicy}
    {octets payload : Octets} (h : parse version policy octets = .ok (header, payload)) :
    octets[1]? = some header.type := by
  obtain ⟨-, -, length, spare, rest, -, -, rfl, -, -⟩ := parse_eq_ok.1 h
  cases header <;> rfl

namespace Message
variable {version : Version} {kind : Kind} {policy : LengthPolicy} {octets : Octets}
  {header : Header} {elements : List Element}

theorem parse_of_parts (h : parseParts version policy octets = .ok (header, elements)) :
    parse version policy octets = .ok (ofElements header (version.dispatch header.type) elements) := by
  rw [← Version.kindOf_eq_dispatch, parse, h]
  rfl

theorem parseAs_generic_of_parts (h : parseParts version policy octets = .ok (header, elements)) :
    parseAs version .generic policy octets = .ok (ofElements header .generic elements) := by
  rw [parseAs, h]
  rfl

/-- A reader of one kind takes the messages of its type and refuses all others. -/
theorem parseAs_of_parts {expected : UInt8} (ht : kind.type? = some expected)
    (h : parseParts version policy octets = .ok (header, elements)) :
    parseAs version kind policy octets =
      if header.type = expected then .ok (ofElements header kind elements)
      else .error (.unexpectedMessage expected header.type) := by
  rw [parseAs, h, ok_bind]
  simp only [ht]
  by_cases htype : header.type = expected <;> simp [htype]

/-- A datagram cannot be read when its header or its elements cannot. -/
theorem parse_eq_error {e : CodecError} :
    parse version policy octets = .error e ↔ parseParts version policy octets = .error e := by
  simp only [parse, bind_eq_error, pure_eq, reduceCtorEq, and_false, exists_false, or_false]

/-- Where header or elements cannot be read, the kind makes no difference. -/
theorem parseAs_of_parts_error {e : CodecError} (h : parseParts version policy octets = .error e)
    (kind : Kind) : parseAs version kind policy octets = .error e := by
  rw [parseAs, h]
  rfl

/-- A generic reader fails as the reader of any message does. -/
theorem parseAs_generic_eq_error {e : CodecError} :
    parseAs version .generic policy octets = .error e ↔ parse version policy octets = .error e := by
  rw [parse_eq_error]
  refine ⟨fun h => ?_, fun h => parseAs_of_parts_error h .generic⟩
  cases hp : parseParts version policy octets with
  | error e' =>
    cases (parseAs_of_parts_error hp .generic).symm.trans h
    rfl
  | ok parts => cases (parseAs_generic_of_parts hp).symm.trans h

/-- What the reader of a kind with slots says, by what the reader of any message says. -/
theorem parseAs_eq_of_mem_kinds {expected : UInt8} (hk : kind ∈ version.kinds)
    (ht : kind.type? = some expected) :
    parseAs version kind policy octets = (do
      let message ← parse version policy octets
      if message.kind = kind then return message
      else throw (.unexpectedMessage expected message.type)) := by
  cases hp : parseParts version policy octets with
  | error e =>
    rw [parseAs_of_parts_error hp, parse_eq_error.2 hp]
    rfl
  | ok parts =>
    obtain ⟨header, elements⟩ := parts
    rw [parseAs_of_parts ht hp, parse_of_parts hp, ok_bind]
    have hlisted : (ofElements header (version.dispatch header.type) elements).kind = kind ↔
        header.type = expected := Version.dispatch_eq_iff hk ht
    by_cases htype : header.type = expected
    · have hfound : version.dispatch header.type = kind := hlisted.2 htype
      rw [if_pos htype, if_pos (hlisted.2 htype), hfound]
      rfl
    · rw [if_neg htype, if_neg (mt hlisted.1 htype)]
      rfl

/-- The reader of a kind with slots yields what the reader of any message yields as one of the kind. -/
theorem parseAs_eq_ok {message : Message} (hk : kind ∈ version.kinds) :
    parseAs version kind policy octets = .ok message ↔
      parse version policy octets = .ok message ∧ message.kind = kind := by
  obtain ⟨expected, ht⟩ := Version.exists_type_of_mem_kinds hk
  rw [parseAs_eq_of_mem_kinds hk ht, bind_eq_ok]
  constructor
  · rintro ⟨found, hp, hm⟩
    split at hm
    · next hf =>
      cases hm
      exact ⟨hp, hf⟩
    · cases hm
  · rintro ⟨hp, hf⟩
    exact ⟨message, hp, if_pos hf⟩

/-- A message that was read has the type that its datagram says, and the kind that is listed for it. -/
theorem kind_eq_dispatch_of_parse {message : Message}
    (h : parse version policy octets = .ok message) :
    octets[1]? = some message.type ∧ message.kind = version.dispatch message.type := by
  obtain ⟨header, payload, elements, hp, -, rfl⟩ := parse_eq_ok.1 h
  exact ⟨Header.type_of_parse hp, Version.kindOf_eq_dispatch version header.type⟩

/-- A generic reader reads what can be read at all: the same header, and the same elements in another
order. -/
theorem parseAs_generic_of_parse {message : Message}
    (h : parse version policy octets = .ok message) :
    ∃ plain, parseAs version .generic policy octets = .ok plain ∧ plain.kind = .generic ∧
      plain.header = message.header ∧ plain.elements.Perm message.elements := by
  cases hp : parseParts version policy octets with
  | error e => cases (parse_eq_error.2 hp).symm.trans h
  | ok parts =>
    obtain ⟨header, elements⟩ := parts
    cases (parse_of_parts hp).symm.trans h
    have hplain := elements_ofElements_perm header .generic elements
    have hslotted := elements_ofElements_perm header (version.dispatch header.type) elements
    exact ⟨_, parseAs_generic_of_parts hp, rfl, rfl, hplain.trans hslotted.symm⟩

/-- The reader of a kind with slots fails as the reader of any message does; it yields a message exactly
when that one yields it as one of the kind; and it refuses all others with its own type and theirs. A
generic reader fails as the reader of any message does, and yields the same header and elements
otherwise. -/
theorem typed_reading (version : Version) (policy : LengthPolicy) (octets : Octets) :
    (∀ kind ∈ version.kinds, ∃ expected, kind.type? = some expected ∧
      (∀ type, version.dispatch type = kind ↔ type = expected) ∧
      (∀ e, parse version policy octets = .error e →
        parseAs version kind policy octets = .error e) ∧
      (∀ message, parseAs version kind policy octets = .ok message ↔
        parse version policy octets = .ok message ∧ message.kind = kind) ∧
      ∀ message, parse version policy octets = .ok message → message.kind ≠ kind →
        parseAs version kind policy octets = .error (.unexpectedMessage expected message.type)) ∧
    (∀ e, parseAs version .generic policy octets = .error e ↔
      parse version policy octets = .error e) ∧
    ∀ message, parse version policy octets = .ok message →
      octets[1]? = some message.type ∧ message.kind = version.dispatch message.type ∧
      ∃ plain, parseAs version .generic policy octets = .ok plain ∧ plain.kind = .generic ∧
        plain.header = message.header ∧ plain.elements.Perm message.elements := by
  refine ⟨fun kind hk => ?_, fun e => parseAs_generic_eq_error, fun message h => ?_⟩
  · obtain ⟨expected, ht⟩ := Version.exists_type_of_mem_kinds hk
    have heq : parseAs version kind policy octets = _ := parseAs_eq_of_mem_kinds hk ht
    refine ⟨expected, ht, fun type => Version.dispatch_eq_iff hk ht,
      fun e h => parseAs_of_parts_error (parse_eq_error.1 h) kind,
      fun message => parseAs_eq_ok hk, fun message h hne => ?_⟩
    rw [heq, h, ok_bind, if_neg hne]
    rfl
  · obtain ⟨htype, hlisted⟩ := kind_eq_dispatch_of_parse h
    exact ⟨htype, hlisted, parseAs_generic_of_parse h⟩

/-- An echo that has its elements in the order of their slots. -/
private def slottedEcho : Message where
  header := .v2 { type := 1, teid := none, sequence := .ofUInt32 7 }
  kind := .echoRequest
  fields := [(.one .recovery 3, [⟨3, 0, [5], []⟩]), (.one .sendingNodeFeatures 152, []),
    (.one .privateExtension 255, [⟨255, 0, [0, 1], []⟩])]
  additional := []

/-- An echo that comes with its elements out of order is read as an echo, and is refused as a request for
a context. -/
theorem typed_reading_slottedEcho :
    let octets : Octets := [0x40, 1, 0, 15, 0, 0, 7, 0, 255, 0, 2, 0, 0, 1, 3, 0, 1, 0, 5]
    parseAs .v2 .echoRequest .strict octets = .ok slottedEcho ∧
      parseAs .v2 .contextRequest .strict octets = .error (.unexpectedMessage 130 1) ∧
      ∃ plain, parseAs .v2 .generic .strict octets = .ok plain ∧
        plain.elements.Perm slottedEcho.elements := by
  intro octets
  have hp : parse .v2 .strict octets = .ok slottedEcho := by decide +kernel
  obtain ⟨htyped, -, hgeneric⟩ := typed_reading .v2 .strict octets
  obtain ⟨_, -, -, -, hecho, -⟩ := htyped .echoRequest (by decide)
  obtain ⟨_, ht, -, -, -, hcontext⟩ := htyped .contextRequest (by decide)
  obtain ⟨-, -, plain, hplain, -, -, hperm⟩ := hgeneric slottedEcho hp
  cases ht
  exact ⟨(hecho slottedEcho).2 ⟨hp, rfl⟩, hcontext slottedEcho hp (by decide), plain, hplain, hperm⟩

end Message
end GtpControl
