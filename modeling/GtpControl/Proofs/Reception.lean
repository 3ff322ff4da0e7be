import GtpControl.Endpoint.Serving
import GtpControl.Proofs.ActionEffects
import GtpControl.Proofs.CallTable
import GtpControl.Proofs.MessageFraming

/-! # Reception: what becomes of a datagram that reaches an endpoint -/
namespace GtpControl.Endpoint
open Endpoint.Action
variable {σ : Type} {environment : Environment (StateM σ)} {endpoint : Endpoint} {world : σ}

/-- The octets of a datagram that an endpoint looks at. -/
def seen (endpoint : Endpoint) (octets : Octets) : Octets :=
  octets.take (max 1 endpoint.settings.bufferSize.toNat)

theorem queueEvent_eq (event : Event) (endpoint : Endpoint) :
    ∃ events, endpoint.queueEvent event = { endpoint with events } := by
  rw [queueEvent]
  split
  · exact ⟨_, rfl⟩
  · exact ⟨endpoint.events, rfl⟩

/-- What is accepted of a datagram is handled. -/
theorem outcome_receive (peer : SocketAddress) (octets : Octets) :
    outcome environment (receive peer octets) (endpoint, world) =
      match outcome environment (accept peer (endpoint.seen octets)) (endpoint, world) with
      | (.ok none, next) => (.ok (), next)
      | (.ok (some (handler, message)), next) =>
        outcome environment (handle handler peer message) next
      | (.error e, next) => (.error e, next) := by
  rw [receive, outcome_bind, outcome_get]
  dsimp only
  rw [dispatch, outcome_bind, ← seen]
  cases outcome environment (accept peer (endpoint.seen octets)) (endpoint, world) with
  | mk result next =>
    cases result with
    | error e => rfl
    | ok accepted => cases accepted <;> rfl

private theorem outcome_accept_error (hq : Quiet environment) (world : σ) {peer : SocketAddress}
    {octets : Octets} {e : CodecError}
    (hp : Message.parse .v2 endpoint.settings.lengthPolicy octets = .error e)
    (he : ∀ version, e ≠ .unsupportedVersion version) :
    ∃ events, outcome environment (accept peer octets) (endpoint, world) =
      (.ok none, { endpoint with events }, world) := by
  obtain ⟨events, hev⟩ := queueEvent_eq (.parseFailed peer e.message) endpoint
  refine ⟨events, ?_⟩
  rw [← hev]
  simp only [accept, outcome_bind, outcome_get, hp]
  cases e with
  | unsupportedVersion version => exact absurd rfl (he version)
  | _ => simp only [outcome_emit hq, outcome_pure]

/-- A datagram that cannot be read is dropped. -/
theorem outcome_receive_error (hq : Quiet environment) {peer : SocketAddress} {octets : Octets}
    {e : CodecError}
    (hp : Message.parse .v2 endpoint.settings.lengthPolicy (endpoint.seen octets) = .error e)
    (he : ∀ version, e ≠ .unsupportedVersion version) :
    ∃ events, outcome environment (receive peer octets) (endpoint, world) =
      (.ok (), { endpoint with events }, world) := by
  obtain ⟨events, ha⟩ := outcome_accept_error hq world hp he
  exact ⟨events, by rw [outcome_receive, ha]⟩

/-- The failure of a handler leaves an event and nothing else. -/
theorem outcome_handle (hq : Quiet environment) (handler : Handler) (peer : SocketAddress)
    (message : Message) :
    ∃ events, (outcome environment (handle handler peer message) (endpoint, world)).2 =
      ({ (outcome environment (handler.run peer message) (endpoint, world)).2.1 with events },
        (outcome environment (handler.run peer message) (endpoint, world)).2.2) := by
  rw [handle, outcome_tryCatch]
  cases h : outcome environment (handler.run peer message) (endpoint, world) with
  | mk result next =>
    cases result with
    | ok u => exact ⟨next.1.events, rfl⟩
    | error e =>
      simp only [outcome_emit hq]
      obtain ⟨events, he⟩ := queueEvent_eq (.handlerFailed peer message.type e.message) next.1
      exact ⟨events, by rw [he]⟩

/-! ## Messages that were read -/

/-- Whether a message is for a call, which may have its reply already. -/
def expects (peer : SocketAddress) (message : Message) (endpoint : Endpoint) : Bool :=
  message.isReply && (endpoint.pending.resolve ⟨message.sequence, peer⟩ message).1 != .unmatched

/-- The calls after a message. -/
def callsAfter (peer : SocketAddress) (message : Message) (endpoint : Endpoint) : Pending :=
  if message.isReply then (endpoint.pending.resolve ⟨message.sequence, peer⟩ message).2
  else endpoint.pending

/-- A message that is for a call, or has no handler, changes nothing but the calls and the events. -/
private theorem outcome_accept_none (hq : Quiet environment) (world : σ) {peer : SocketAddress}
    {octets : Octets} {message : Message}
    (hp : Message.parse .v2 endpoint.settings.lengthPolicy octets = .ok message)
    (h : endpoint.expects peer message = true ∨ endpoint.handlers.get? message.type = none) :
    ∃ events, outcome environment (accept peer octets) (endpoint, world) =
      (.ok none, { endpoint with pending := endpoint.callsAfter peer message, events }, world) := by
  rw [expects, Bool.and_eq_true] at h
  rw [callsAfter]
  simp only [accept, resolve, outcome_bind, outcome_get, hp, outcome_log hq]
  cases hr : message.isReply with
  | false =>
    have hh : endpoint.handlers.get? message.type = none :=
      h.resolve_left fun he => Bool.false_ne_true (hr.symm.trans he.1)
    obtain ⟨events, he⟩ := queueEvent_eq (.unhandled peer message.type) endpoint
    simp only [Bool.false_eq_true, if_false, outcome_pure, outcome_bind, outcome_get, hh,
      outcome_emit hq, he]
    exact ⟨events, rfl⟩
  | true =>
    simp only [if_true, outcome_bind, outcome_get, outcome_modify, outcome_pure]
    cases hm : endpoint.pending.resolve ⟨message.sequence, peer⟩ message with
    | mk result pending =>
      cases result with
      | resolved => exact ⟨endpoint.events, rfl⟩
      | duplicate =>
        obtain ⟨events, he⟩ := queueEvent_eq (.duplicateReply peer message.type message.sequence)
          { endpoint with pending }
        simp only [outcome_bind, outcome_emit hq, he, outcome_pure]
        exact ⟨events, rfl⟩
      | unmatched =>
        have hh : endpoint.handlers.get? message.type = none :=
          h.resolve_left fun he => by simp [hm] at he
        obtain ⟨events, he⟩ := queueEvent_eq (.unhandled peer message.type)
          { endpoint with pending }
        simp only [outcome_bind, outcome_get, hh, outcome_emit hq, he, outcome_pure]
        exact ⟨events, rfl⟩

/-- Other messages are left to the handler of their type. -/
private theorem outcome_accept_some (hq : Quiet environment) (world : σ) {peer : SocketAddress}
    {octets : Octets} {message : Message} {handler : Handler}
    (hp : Message.parse .v2 endpoint.settings.lengthPolicy octets = .ok message)
    (he : endpoint.expects peer message = false)
    (hh : endpoint.handlers.get? message.type = some handler) :
    outcome environment (accept peer octets) (endpoint, world) =
      (.ok (some (handler, message)), endpoint, world) := by
  rw [expects, Bool.and_eq_false_iff] at he
  simp only [accept, resolve, outcome_bind, outcome_get, hp, outcome_log hq]
  cases hr : message.isReply with
  | false =>
    simp only [Bool.false_eq_true, if_false, outcome_pure, outcome_bind, outcome_get, hh]
  | true =>
    have hu : (endpoint.pending.resolve ⟨message.sequence, peer⟩ message).1 = .unmatched := by
      rcases he with he | he
      · rw [hr] at he
        cases he
      · simpa using he
    have hsame := Pending.resolve_unmatched _ _ _ hu
    simp only [if_true, outcome_bind, outcome_get, outcome_modify, outcome_pure, hu, hsame, hh]

/-- A message that is for a call, or has no handler, is dropped when the calls have it. -/
theorem outcome_receive_kept (hq : Quiet environment) {peer : SocketAddress} {octets : Octets}
    {message : Message}
    (hp : Message.parse .v2 endpoint.settings.lengthPolicy (endpoint.seen octets) = .ok message)
    (h : endpoint.expects peer message = true ∨ endpoint.handlers.get? message.type = none) :
    ∃ events, outcome environment (receive peer octets) (endpoint, world) =
      (.ok (), { endpoint with pending := endpoint.callsAfter peer message, events }, world) := by
  obtain ⟨events, ha⟩ := outcome_accept_none hq world hp h
  exact ⟨events, by rw [outcome_receive, ha]⟩

/-- Other messages go to the handler of their type. -/
theorem outcome_receive_handled (hq : Quiet environment) {peer : SocketAddress} {octets : Octets}
    {message : Message} {handler : Handler}
    (hp : Message.parse .v2 endpoint.settings.lengthPolicy (endpoint.seen octets) = .ok message)
    (he : endpoint.expects peer message = false)
    (hh : endpoint.handlers.get? message.type = some handler) :
    ∃ events, (outcome environment (receive peer octets) (endpoint, world)).2 =
      ({ (outcome environment (handler.run peer message) (endpoint, world)).2.1 with events },
        (outcome environment (handler.run peer message) (endpoint, world)).2.2) := by
  rw [outcome_receive, outcome_accept_some hq world hp he hh]
  exact outcome_handle hq handler peer message

/-- A message that is no reply goes to the handler of its type. -/
theorem outcome_receive_request (hq : Quiet environment) {peer : SocketAddress} {octets : Octets}
    {message : Message} {handler : Handler}
    (hp : Message.parse .v2 endpoint.settings.lengthPolicy (endpoint.seen octets) = .ok message)
    (hr : message.isReply = false) (hh : endpoint.handlers.get? message.type = some handler) :
    ∃ events, (outcome environment (receive peer octets) (endpoint, world)).2 =
      ({ (outcome environment (handler.run peer message) (endpoint, world)).2.1 with events },
        (outcome environment (handler.run peer message) (endpoint, world)).2.2) :=
  outcome_receive_handled hq hp (by rw [expects, hr, Bool.false_and]) hh

/-- A reply without a handler of its type changes nothing but the calls and the events. -/
theorem outcome_receive_reply (hq : Quiet environment) {peer : SocketAddress} {octets : Octets}
    {message : Message}
    (hp : Message.parse .v2 endpoint.settings.lengthPolicy (endpoint.seen octets) = .ok message)
    (hr : message.isReply = true) (hh : endpoint.handlers.get? message.type = none) :
    ∃ events, outcome environment (receive peer octets) (endpoint, world) =
      (.ok (), { endpoint with
        pending := (endpoint.pending.resolve ⟨message.sequence, peer⟩ message).2, events }, world) := by
  obtain ⟨events, hrun⟩ := outcome_receive_kept hq hp (.inr hh)
  rw [callsAfter, if_pos hr] at hrun
  exact ⟨events, hrun⟩

/-! ## All datagrams -/

/-- What is told to the sender of a request of an older version. -/
def indication (sequence : UInt32) : Message :=
  .ofElements (Header.make .v2 versionNotSupported { sequence }) .generic []

theorem sound_indication (sequence : UInt32) : (indication sequence).Sound :=
  Message.sound_ofElements (Header.sound_make ..) (by simp) (by
    rw [Header.version_make, Header.type_make]
    decide)

/-- A request of another version is dropped, or its sender is told that it is not supported. -/
theorem outcome_rejectVersion (hq : Quiet environment) (peer : SocketAddress)
    (octets : Octets) (version : UInt8) :
    (∃ events, outcome environment (rejectVersion peer octets version) (endpoint, world) =
        (.ok (), { endpoint with events }, world)) ∨
      ∃ request, Message.parseAny .lenient octets = .ok request ∧ request.version ∈ [.v0, .v1] ∧
        request.isReply = false ∧
        outcome environment (rejectVersion peer octets version) (endpoint, world) =
          (.ok (), endpoint,
            (outcome environment (send peer (indication request.sequence)) (endpoint, world)).2.2) := by
  have hdrop : ∃ events, outcome environment (rejectVersion.drop peer version) (endpoint, world) =
      (.ok (), { endpoint with events }, world) := by
    obtain ⟨events, he⟩ := queueEvent_eq
      (.parseFailed peer (CodecError.unsupportedVersion version).message) endpoint
    exact ⟨events, by rw [rejectVersion.drop, outcome_emit hq, he]⟩
  have hanswer : ∀ request : Message,
      outcome environment (rejectVersion.answer peer request) (endpoint, world) =
        (.ok (), endpoint,
          (outcome environment (send peer (indication request.sequence)) (endpoint, world)).2.2) := by
    intro request
    have hkept : (outcome environment (send peer (indication request.sequence))
        (endpoint, world)).2.1 = endpoint := (keeps_send .. : Keeps environment id _ _)
    rw [rejectVersion.answer, outcome_bind, outcome_log hq]
    dsimp only
    rw [outcome_tryCatch, ← indication]
    cases hs : outcome environment (send peer (indication request.sequence)) (endpoint, world) with
    | mk result next =>
      rw [hs] at hkept
      cases result with
      | ok u => exact congrArg (fun kept => (Except.ok (), kept, next.2)) hkept
      | error e =>
        simp only [outcome_log hq]
        exact congrArg (fun kept => (Except.ok (), kept, next.2)) hkept
  rw [rejectVersion]
  cases hp : Message.parseAny .lenient octets with
  | error e => exact .inl hdrop
  | ok request =>
    dsimp only
    cases hv : request.version with
    | v0 | v1 =>
      cases hr : request.isReply with
      | true => exact .inl ⟨endpoint.events, rfl⟩
      | false => exact .inr ⟨request, rfl, by simp [hv], hr, hanswer request⟩
    | prime => exact .inl ⟨endpoint.events, rfl⟩
    | v2 => exact .inl hdrop

/-- A datagram is dropped, or refused for its version, or it is for a call, or there is a handler for the
message that was read. -/
theorem accept_cases (hq : Quiet environment) (endpoint : Endpoint) (world : σ)
    (peer : SocketAddress) (octets : Octets) :
    (∃ events, outcome environment (accept peer octets) (endpoint, world) =
        (.ok none, { endpoint with events }, world)) ∨
      (∃ version request,
        Message.parse .v2 endpoint.settings.lengthPolicy octets =
          .error (.unsupportedVersion version) ∧
        Message.parseAny .lenient octets = .ok request ∧ request.version ∈ [.v0, .v1] ∧
        request.isReply = false ∧ outcome environment (accept peer octets) (endpoint, world) =
          (.ok none, endpoint,
            (outcome environment (send peer (indication request.sequence)) (endpoint, world)).2.2)) ∨
      ∃ message, Message.parse .v2 endpoint.settings.lengthPolicy octets = .ok message ∧
        ((∃ events, outcome environment (accept peer octets) (endpoint, world) =
            (.ok none, { endpoint with pending := endpoint.callsAfter peer message, events }, world)) ∨
          ∃ handler, endpoint.expects peer message = false ∧
            endpoint.handlers.get? message.type = some handler ∧
            outcome environment (accept peer octets) (endpoint, world) =
              (.ok (some (handler, message)), endpoint, world)) := by
  cases hp : Message.parse .v2 endpoint.settings.lengthPolicy octets with
  | error e =>
    by_cases he : ∃ version, e = .unsupportedVersion version
    · obtain ⟨version, rfl⟩ := he
      have ha : outcome environment (accept peer octets) (endpoint, world) =
          match outcome environment (rejectVersion peer octets version) (endpoint, world) with
          | (.ok _, next) => (.ok none, next)
          | (.error e, next) => (.error e, next) := by
        simp only [accept, outcome_bind, outcome_get, hp]
        cases outcome environment (rejectVersion peer octets version) (endpoint, world) with
        | mk result next => cases result <;> rfl
      obtain ⟨events, hr⟩ | ⟨request, hany, hv, hreply, hr⟩ :=
        outcome_rejectVersion hq peer octets version
      · rw [hr] at ha
        exact .inl ⟨events, ha⟩
      · rw [hr] at ha
        exact .inr (.inl ⟨version, request, rfl, hany, hv, hreply, ha⟩)
    · exact .inl (outcome_accept_error hq world hp fun version h => he ⟨version, h⟩)
  | ok message =>
    refine .inr (.inr ⟨message, rfl, ?_⟩)
    cases he : endpoint.expects peer message with
    | true => exact .inl (outcome_accept_none hq world hp (.inl he))
    | false =>
      cases hh : endpoint.handlers.get? message.type with
      | none => exact .inl (outcome_accept_none hq world hp (.inr hh))
      | some handler => exact .inr ⟨handler, rfl, rfl, outcome_accept_some hq world hp he hh⟩

/-- A datagram is dropped, or refused for its version, or it is for a call, or a handler gets the
message that was read. -/
theorem receive_cases (hq : Quiet environment) (endpoint : Endpoint) (world : σ)
    (peer : SocketAddress) (octets : Octets) :
    (∃ events, (outcome environment (receive peer octets) (endpoint, world)).2 =
        ({ endpoint with events }, world)) ∨
      (∃ sequence, (outcome environment (receive peer octets) (endpoint, world)).2 =
        (endpoint, (outcome environment (send peer (indication sequence)) (endpoint, world)).2.2)) ∨
      ∃ message,
        Message.parse .v2 endpoint.settings.lengthPolicy (endpoint.seen octets) = .ok message ∧
        ((∃ events, (outcome environment (receive peer octets) (endpoint, world)).2 =
            ({ endpoint with pending := endpoint.callsAfter peer message, events }, world)) ∨
          ∃ handler events, endpoint.handlers.get? message.type = some handler ∧
            (outcome environment (receive peer octets) (endpoint, world)).2 =
              ({ (outcome environment (handler.run peer message) (endpoint, world)).2.1 with events },
                (outcome environment (handler.run peer message) (endpoint, world)).2.2)) := by
  rw [outcome_receive]
  obtain ⟨events, ha⟩ | ⟨version, request, -, -, -, -, ha⟩ |
    ⟨message, hp, ⟨events, ha⟩ | ⟨handler, -, hh, ha⟩⟩ :=
      accept_cases hq endpoint world peer (endpoint.seen octets)
  · exact .inl ⟨events, by rw [ha]⟩
  · exact .inr (.inl ⟨request.sequence, by rw [ha]⟩)
  · exact .inr (.inr ⟨message, hp, .inl ⟨events, by rw [ha]⟩⟩)
  · obtain ⟨events, hhandle⟩ := outcome_handle hq handler peer message
    exact .inr (.inr ⟨message, hp, .inr ⟨handler, events, hh, by rw [ha, hhandle]⟩⟩)

/-! ## Whole and cut datagrams -/

/-- No datagram of up to this many octets is taken for a shorter one: either the buffer holds it, or
a datagram that is cut off cannot be read. -/
def TakesWhole (limit : Nat) (endpoint : Endpoint) : Prop :=
  endpoint.settings.lengthPolicy = .strict ∨ limit ≤ endpoint.settings.bufferSize.toNat

private theorem parse_cut {message : Message} {octets : Octets}
    (hv : message.version = .v2) (he : message.encode = .ok octets) {n : Nat} (hn : 0 < n)
    (hcut : n < octets.length) :
    ∃ needed available, Message.parse .v2 .strict (octets.take n) =
      .error (.tooShort needed available) := by
  obtain ⟨header, hh⟩ : ∃ header, message.header = .v2 header := by
    cases hm : message.header with
    | v2 header => exact ⟨header, rfl⟩
    | _ => simp [Message.version, hm, Header.version] at hv
  have hsize := Message.length_encode he
  obtain ⟨_, front, hf, ho⟩ := Message.encode_eq_ok.1 he
  rw [Message.payloadSize_eq, hh] at hf
  obtain ⟨more, hfront⟩ := Header.head_encode hf
  have hhead : octets.head? = some header.flags := by
    rw [ho, hfront]
    rfl
  have hwhole := V2Header.parse_encode hf .strict []
  rw [List.append_nil, ← ho] at hwhole
  cases hc : V2Header.parse .strict (octets.take n) with
  | ok parsed =>
    -- What was read off the part would be read off the whole, but the whole has more in it.
    obtain ⟨header', payload⟩ := parsed
    have happ := V2Header.parse_strict_append hc (octets.drop n)
    rw [List.take_append_drop, hwhole] at happ
    cases happ
    have hu := (V2Header.unpacked_of_parse hc).size
    rw [List.length_take] at hu
    rw [Message.size, Message.payloadSize_eq, hh, Header.size] at hsize
    omega
  | error e =>
    obtain ⟨needed, available, rfl⟩ := V2Header.error_of_parse hc fun flags hflags => by
      rw [List.head?_take, if_neg (by omega), hhead] at hflags
      cases hflags
      exact header.version_flags
    refine ⟨needed, available, ?_⟩
    simp only [Message.parse, Message.parseParts, Header.parse, hc]
    rfl

/-- A message reaches an endpoint as it was sent, or not at all. -/
theorem parse_seen {endpoint : Endpoint} {limit : Nat} (hw : endpoint.TakesWhole limit)
    {message : Message} {octets : Octets} (sound : message.Sound) (hv : message.version = .v2)
    (he : message.encode = .ok octets) (hl : octets.length ≤ limit) :
    Message.parse .v2 endpoint.settings.lengthPolicy (endpoint.seen octets) = .ok message ∨
      ∃ needed available, Message.parse .v2 endpoint.settings.lengthPolicy (endpoint.seen octets) =
        .error (.tooShort needed available) := by
  rw [seen]
  by_cases hsize : octets.length ≤ max 1 endpoint.settings.bufferSize.toNat
  · rw [List.take_of_length_le hsize]
    exact .inl (sound.parse_v2 hv he _)
  · rcases hw with hs | hb
    · rw [hs]
      exact .inr (parse_cut hv he (by omega) (by omega))
    · omega

end GtpControl.Endpoint
