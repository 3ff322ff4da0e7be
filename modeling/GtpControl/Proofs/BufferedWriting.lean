import GtpControl.Proofs.SelfDelimiting

/-! # Writing to a buffer: a message is appended whole or not at all

A writer puts one field after the other at the end of a buffer, and what it has put stays there when it
fails. The header goes first, and after it each element could still be refused for its length. -/
namespace GtpControl

/-- Writers to a buffer of octets. -/
abbrev Writing := ExceptT CodecError (StateM Octets)

namespace Writing

/-- Octets at the end of the buffer. -/
def append (octets : Octets) : Writing Unit := modify (· ++ octets)

/-- A value, or the failure to compute it. -/
def check {α : Type} (x : Coded α) : Writing α := ExceptT.mk (pure x)

/-- What a writer says, and what is in the buffer then. -/
def onto {α : Type} (writer : Writing α) (buffer : Octets) : Coded α × Octets := writer.run.run buffer

end Writing

open Writing

/-! ## Writers -/

/-- All checks of a header stand before its first octet. -/
def V0Header.write (header : V0Header) (payloadSize : Nat) : Writing Unit := do
  let length ← check (lengthField payloadSize)
  append [header.flags]
  append [header.type]
  append length
  append (Octets.ofUInt16 header.sequence)
  append (Octets.ofUInt16 header.flowLabel)
  append [header.packetNumber]
  append [0xff, 0xff, 0xff]
  append (Octets.ofUInt64 header.tid)

namespace ExtensionHeader

/-- The octet that names the first of some entries. -/
def naming : List ExtensionHeader → UInt8
  | [] => 0
  | extension :: _ => extension.type

/-- Entries after an octet that names the first one. Each ends with the octet that names the next. -/
def writeAll : List ExtensionHeader → Writing Unit
  | [] => pure ()
  | extension :: rest => do
    append [.ofNat (extension.size / 4)]
    append extension.content
    append [naming rest]
    writeAll rest

end ExtensionHeader

/-- The optional block and the extension headers. -/
def V1Header.writeBlock (header : V1Header) : Writing Unit :=
  if header.hasOptional then do
    append (Octets.ofUInt16 header.sequence)
    append [header.packetNumber]
    append [ExtensionHeader.naming header.extensions]
    ExtensionHeader.writeAll header.extensions
  else pure ()

def V1Header.write (header : V1Header) (payloadSize : Nat) : Writing Unit := do
  let length ← check (lengthField (header.size - fixedSize + payloadSize))
  append [header.flags]
  append [header.type]
  append length
  append (Octets.ofUInt32 header.teid)
  header.writeBlock

def V2Header.write (header : V2Header) (payloadSize : Nat) : Writing Unit := do
  let length ← check (lengthField (header.size - fixedSize + payloadSize))
  append [header.flags]
  append [header.type]
  append length
  append ((header.teid.map Octets.ofUInt32).getD [])
  append (Octets.ofNat 3 header.sequence)
  append [header.spare]

def PrimeHeader.write (header : PrimeHeader) (payloadSize : Nat) : Writing Unit := do
  let length ← check (lengthField payloadSize)
  append [header.flags]
  append [header.type]
  append length
  append (Octets.ofUInt16 header.sequence)
  if header.long then append (List.replicate spareSize 0xff)

def Header.write (payloadSize : Nat) : Header → Writing Unit
  | .v0 header => header.write payloadSize
  | .v1 header => header.write payloadSize
  | .v2 header => header.write payloadSize
  | .prime header => header.write payloadSize

/-- The length of an element is checked before its first octet. -/
def Element.write (version : Version) (element : Element) : Writing Unit := do
  let length ← check (
    if version.hasLength element.type then lengthField element.payload.length else pure [])
  append [element.type]
  append length
  append (if version.hasLength element.type && version.hasInstance then [element.inst] else [])
  append element.payload

/-- The header is written before any element is looked at. -/
def Message.write (message : Message) : Writing Unit := do
  message.header.write message.payloadSize
  message.elements.forM (Element.write message.version)

/-! ## What writers append -/

namespace Writing
variable {writer next : Writing Unit} {octets more : Octets}

/-- A writer that does not fail, and puts these octets at the end of any buffer. -/
def Appends (writer : Writing Unit) (octets : Octets) : Prop :=
  ∀ buffer, writer.onto buffer = (.ok (), buffer ++ octets)

theorem onto_bind {α β : Type} (writer : Writing α) (next : α → Writing β) (buffer : Octets) :
    (writer >>= next).onto buffer = match writer.onto buffer with
      | (.ok a, buffer) => (next a).onto buffer
      | (.error e, buffer) => (.error e, buffer) := by
  have hbind : (writer >>= next).onto buffer =
      (ExceptT.bindCont next (writer.onto buffer).1).run (writer.onto buffer).2 := rfl
  rw [hbind]
  obtain ⟨e | a, buffer⟩ := writer.onto buffer <;> rfl

theorem appends_pure : Appends (pure ()) [] := fun buffer => by
  rw [List.append_nil]
  rfl

theorem appends_append (octets : Octets) : Appends (append octets) octets := fun _ => rfl

theorem Appends.bind (h : Appends writer octets) (h' : Appends next more) :
    Appends (writer >>= fun _ => next) (octets ++ more) := by
  intro buffer
  rw [onto_bind, h]
  exact (h' _).trans (by rw [List.append_assoc])

theorem Appends.of_eq (h : Appends writer octets) (he : octets = more) : Appends writer more := he ▸ h

/-- A writer that puts at the end of any buffer what an encoder gives, and puts nothing there when the
encoder fails. -/
def Commits (writer : Writing Unit) (encoded : Coded Octets) : Prop :=
  ∀ buffer, writer.onto buffer = match encoded with
    | .ok octets => (.ok (), buffer ++ octets)
    | .error e => (.error e, buffer)

/-- A writer whose only check is its first step. -/
theorem commits_check {α : Type} {x : Coded α} {next : α → Writing Unit} {octets : α → Octets}
    (h : ∀ a, Appends (next a) (octets a)) :
    Commits (check x >>= next) (x >>= fun a => pure (octets a)) := by
  intro buffer
  rw [onto_bind]
  cases x with
  | ok a => exact h a buffer
  | error e => rfl

end Writing

/-! ## Headers and elements -/

theorem V0Header.commits_write (header : V0Header) (n : Nat) :
    Commits (header.write n) (header.encode n) := by
  rw [write, encode]
  refine commits_check fun length => ?_
  refine .of_eq (.bind (appends_append _) <| .bind (appends_append _) <| .bind (appends_append _) <|
    .bind (appends_append _) <| .bind (appends_append _) <| .bind (appends_append _) <|
    .bind (appends_append _) (appends_append _)) ?_
  simp only [List.append_assoc, List.cons_append, List.nil_append]

namespace ExtensionHeader

theorem appends_writeAll (extensions : List ExtensionHeader) :
    Appends (append [naming extensions] >>= fun _ => writeAll extensions)
      (encodeChain extensions) := by
  induction extensions with
  | nil => exact .bind (appends_append _) appends_pure
  | cons extension rest ih =>
    refine .of_eq (.bind (appends_append _) <| .bind (appends_append _) <| .bind (appends_append _)
      ih) ?_
    rfl

end ExtensionHeader

theorem V1Header.appends_writeBlock (header : V1Header) :
    Appends header.writeBlock
      (if header.hasOptional then
        Octets.ofUInt16 header.sequence ++ header.packetNumber
          :: ExtensionHeader.encodeChain header.extensions
      else []) := by
  unfold writeBlock
  split
  · exact .bind (appends_append _) <| .bind (appends_append _) <|
      ExtensionHeader.appends_writeAll header.extensions
  · exact appends_pure

theorem V1Header.commits_write (header : V1Header) (n : Nat) :
    Commits (header.write n) (header.encode n) := by
  rw [write, encode]
  refine commits_check fun length => ?_
  refine .of_eq (.bind (appends_append _) <| .bind (appends_append _) <| .bind (appends_append _) <|
    .bind (appends_append _) header.appends_writeBlock) ?_
  simp only [List.append_assoc, List.cons_append, List.nil_append]

theorem V2Header.commits_write (header : V2Header) (n : Nat) :
    Commits (header.write n) (header.encode n) := by
  rw [write, encode]
  refine commits_check fun length => ?_
  refine .of_eq (.bind (appends_append _) <| .bind (appends_append _) <| .bind (appends_append _) <|
    .bind (appends_append _) <| .bind (appends_append _) (appends_append _)) ?_
  simp only [List.append_assoc, List.cons_append, List.nil_append]

theorem PrimeHeader.commits_write (header : PrimeHeader) (n : Nat) :
    Commits (header.write n) (header.encode n) := by
  rw [write, encode]
  refine commits_check fun length => ?_
  have hspare : Appends (if header.long then append (List.replicate spareSize 0xff) else pure ())
      (if header.long then List.replicate spareSize 0xff else []) := by
    split
    · exact appends_append _
    · exact appends_pure
  refine .of_eq (.bind (appends_append _) <| .bind (appends_append _) <| .bind (appends_append _) <|
    .bind (appends_append _) hspare) ?_
  simp only [List.append_assoc, List.cons_append, List.nil_append]

theorem Header.commits_write (header : Header) (n : Nat) :
    Commits (header.write n) (header.encode n) := by
  cases header with
  | v0 header => exact header.commits_write n
  | v1 header => exact header.commits_write n
  | v2 header => exact header.commits_write n
  | prime header => exact header.commits_write n

theorem Element.commits_write (version : Version) (element : Element) :
    Commits (element.write version) (element.encode version) := by
  have he : element.encode version =
      (if version.hasLength element.type then lengthField element.payload.length else pure []) >>=
        fun length => pure (element.type :: length
          ++ (if version.hasLength element.type && version.hasInstance then [element.inst] else [])
          ++ element.payload) := by
    cases hl : version.hasLength element.type with
    | true =>
      rw [encode, octets, lengthField, hl]
      split
      · next h => rw [if_pos rfl, if_pos h.2]; rfl
      · next h =>
        have hle : element.payload.length ≤ maxLength := Nat.not_lt.1 fun hlt => h ⟨rfl, hlt⟩
        rw [if_pos rfl, if_pos rfl, if_neg (Nat.not_lt.2 hle), Nat.min_eq_left hle]
        rfl
    | false => simp [encode, octets, hl]
  rw [he, write]
  refine commits_check fun length => ?_
  refine .of_eq (.bind (appends_append _) <| .bind (appends_append _) <| .bind (appends_append _)
    (appends_append _)) ?_
  simp only [List.append_assoc, List.cons_append, List.nil_append]

theorem le_total {size : Nat} {sizes : List Nat} (h : size ∈ sizes) : size ≤ total sizes := by
  induction h with
  | head sizes => exact Nat.le_add_right ..
  | tail first _ ih => exact ih.trans (Nat.le_add_left ..)

namespace Element
variable {version : Version}

/-- Elements that fit are appended one after the other. -/
theorem appends_forM {elements : List Element} (fits : ∀ x ∈ elements, Fits version x) :
    Appends (elements.forM (write version)) (elements.flatMap (octets version)) := by
  induction elements with
  | nil => exact appends_pure
  | cons x xs ih =>
    obtain ⟨hx, hxs⟩ := List.forall_mem_cons.1 fits
    have hw : Appends (x.write version) (x.octets version) := fun buffer => by
      rw [x.commits_write version buffer, encode_eq_ok.2 ⟨hx, rfl⟩]
    exact hw.bind (ih hxs)

/-- No element is longer than all of them together. -/
theorem fits_of_total_le {elements : List Element}
    (h : total (elements.map (encodedSize version)) ≤ maxLength) :
    ∀ x ∈ elements, Fits version x := by
  intro x hx _
  have hle := le_total (List.mem_map_of_mem (f := encodedSize version) hx)
  rw [encodedSize] at hle
  omega

end Element

/-! ## Messages -/

namespace Message

/-- A writer of messages appends the whole message, whose length field counts all its octets but those
that headers of the version do not count; or there are more of these than a length field can count, and
the writer says so and leaves the buffer as it was. -/
theorem write_whole_or_nothing (message : Message) (buffer : Octets) :
    let counted := message.size - message.version.uncounted message.header.flags
    if maxLength < counted then
      message.write.onto buffer = (.error (.tooLarge counted), buffer) ∧
        message.encode = .error (.tooLarge counted)
    else
      ∃ rest, let written := message.header.flags :: message.type :: Octets.ofNat 2 counted ++ rest
        message.write.onto buffer = (.ok (), buffer ++ written) ∧
          message.encode = .ok written ∧ written.length = message.size := by
  intro counted
  have hcounted : counted = message.header.counted + message.payloadSize := by
    have hsize := message.header.size_eq_uncounted
    simp only [counted, size, version, hsize]
    omega
  have hwrite : message.write.onto buffer = _ := onto_bind ..
  rw [hwrite, message.header.commits_write message.payloadSize buffer, hcounted]
  split
  · next hlong =>
    have he := Header.encode_eq_error.2 ⟨hlong, rfl⟩
    rw [he, encode, he, error_bind]
    exact ⟨rfl, rfl⟩
  · next hshort =>
    -- The header has room for all elements, so each of them has room.
    have fits : ∀ x ∈ message.elements, Element.Fits message.version x :=
      Element.fits_of_total_le (Nat.le_trans (Nat.le_add_left ..) (Nat.le_of_not_lt hshort))
    obtain ⟨front, hf⟩ := Header.exists_encode.2 (Nat.le_of_not_lt hshort)
    have he := encode_eq_ok.2 ⟨fits, front, hf, rfl⟩
    have hlength := length_encode he
    obtain ⟨-, rest, rfl⟩ := Header.exists_of_encode hf
    refine ⟨rest ++ message.elements.flatMap (Element.octets message.version), ?_⟩
    rw [hf, ← List.append_assoc]
    refine ⟨?_, he, hlength⟩
    exact (Element.appends_forM fits _).trans (by rw [List.append_assoc]; rfl)

end Message
end GtpControl
