import GtpControl.Proofs.GatewaySessions
import GtpControl.Proofs.Reception

/-! # Service: sessions and answers of a gateway, over all that it receives

A session is counted from the answer that accepts its creation to the answer that accepts its
deletion. In between it is in use, and its number is its own. -/
namespace GtpControl.Endpoint
open Endpoint.Action Catalog.V2 Element

/-! ## What is sent -/

/-- Surroundings that send every datagram and keep it on record. What a user's handler would do in
them is a step of its own. -/
def Environment.recording : Environment (StateM (List (SocketAddress × Octets))) where
  bind address := pure (.ok address)
  send peer octets := do
    modify (· ++ [(peer, octets)])
    return .ok ()
  log _ _ := pure ()
  await _ := pure ()
  custom _ _ _ := pure (.ok ())

/-- The datagram is a response of this kind by which a request is accepted. -/
def accepting (kind : Kind) (datagram : SocketAddress × Octets) : Bool :=
  match Message.parse .v2 .strict datagram.2 with
  | .ok message => message.accepts kind
  | .error _ => false

/-- How many requests are accepted by responses of this kind. -/
def accepted (kind : Kind) (sent : List (SocketAddress × Octets)) : Nat :=
  sent.countP (accepting kind)

variable {peer : SocketAddress} {request message answer : Message} {answer? : Option Message}
  {endpoint next : Endpoint} {octets : Octets} {sent more : List (SocketAddress × Octets)}

theorem quiet_recording : Quiet .recording := fun _ _ _ => rfl

theorem idle_recording : Idle .recording := fun _ _ _ _ => rfl

theorem handles_recording (p : Endpoint × List (SocketAddress × Octets) → Prop) :
    Handles .recording p :=
  fun _ _ _ _ h => h

theorem outcome_send_recording (hb : endpoint.bound.isSome = true) (peer : SocketAddress)
    (message : Message) (sent : List (SocketAddress × Octets)) :
    outcome .recording (send peer message) (endpoint, sent) =
      match message.encode with
      | .error e => (.error (.codec e), endpoint, sent)
      | .ok octets => (.ok (), endpoint, sent ++ [(peer, octets)]) := by
  have hn : endpoint.bound.isNone = false := by
    rw [← Option.not_isSome, hb, Bool.not_true]
  rw [outcome_send quiet_recording, hn, if_neg Bool.false_ne_true]
  rfl

theorem accepting_of_parse (h : Message.parse .v2 .strict octets = .ok message) (kind : Kind)
    (peer : SocketAddress) : accepting kind (peer, octets) = message.accepts kind := by
  rw [accepting, h]

/-- What is written is read. -/
theorem accepting_encode (sound : message.Sound) (hv : message.version = .v2)
    (he : message.encode = .ok octets) (kind : Kind) (peer : SocketAddress) :
    accepting kind (peer, octets) = message.accepts kind :=
  accepting_of_parse (sound.parse_v2 hv he .strict) kind peer

theorem accepts_setSequence (sequence : UInt32) (message : Message) (kind : Kind) :
    (message.setSequence sequence).accepts kind = message.accepts kind := by
  obtain ⟨header, _, _, _⟩ := message
  cases header <;> rfl

theorem accepted_append (kind : Kind) (sent more : List (SocketAddress × Octets)) :
    accepted kind (sent ++ more) = accepted kind sent + accepted kind more :=
  List.countP_append

/-- An answer ends up on record as it is read, unless it is too long. -/
theorem Reacts.sends {ran : Except EndpointError Unit × Endpoint × List (SocketAddress × Octets)}
    (reacts : Reacts .recording peer request (endpoint, sent) ran next (some answer))
    (hb : next.bound.isSome = true) (sound : ∀ x ∈ request.elements, Element.Sound .v2 x)
    (writable : ∀ n, ran.1 ≠ .error (.codec (.tooLarge n))) :
    ∃ octets, ran.2 = (next, sent ++ [(peer, octets)]) ∧
      Message.parse .v2 .strict octets = .ok (answer.setSequence request.sequence) := by
  have hstate := reacts.state
  have herror := reacts.error
  obtain ⟨hsound, hv⟩ := reacts.reaction.sound sound
  obtain ⟨hsound, hv⟩ := hsound.setSequence hv request.sequence
  rw [answering, respond, outcome_send_recording hb] at hstate herror
  cases he : (answer.setSequence request.sequence).encode with
  | error e =>
    obtain ⟨n, rfl⟩ := Message.tooLarge_of_encode he
    rw [he] at herror
    exact absurd (herror _ rfl) (writable n)
  | ok octets =>
    rw [he] at hstate
    exact ⟨octets, hstate, hsound.parse_v2 hv he .strict⟩

/-- A reaction ends with its answer on record, unless that is too long. -/
theorem Reacts.recorded {ran : Except EndpointError Unit × Endpoint × List (SocketAddress × Octets)}
    (reacts : Reacts .recording peer request (endpoint, sent) ran next answer?)
    (hb : next.bound.isSome = true) (sound : ∀ x ∈ request.elements, Element.Sound .v2 x)
    (writable : ∀ n, ran.1 ≠ .error (.codec (.tooLarge n))) :
    ∃ sent', ran.2 = (next, sent') ∧ ∀ kind, accepted kind sent' =
      accepted kind sent + answer?.toList.countP (Message.accepts kind) := by
  cases answer? with
  | none => exact ⟨sent, reacts.state, fun _ => rfl⟩
  | some answer =>
    obtain ⟨octets, hran, hp⟩ := reacts.sends hb sound writable
    refine ⟨_, hran, fun kind => ?_⟩
    rw [accepted_append, accepted, accepted, List.countP_singleton, accepting_of_parse hp,
      accepts_setSequence, Option.toList_some, List.countP_singleton]

/-- An indication accepts nothing. -/
private theorem accepting_indication {sequence : UInt32}
    (he : (indication sequence).encode = .ok octets) (kind : Kind) (peer : SocketAddress) :
    accepting kind (peer, octets) = false := by
  rw [accepting_encode (sound_indication sequence) rfl he]
  have hnone : (indication sequence).cause? = none := rfl
  rw [Message.accepts, hnone]
  simp

/-! ## What is received -/

/-- No handler that the datagram reaches fails because its answer is too long. -/
def Writable (sent : List (SocketAddress × Octets)) (peer : SocketAddress) (octets : Octets)
    (endpoint : Endpoint) : Prop :=
  ∀ message handler,
    Message.parse .v2 endpoint.settings.lengthPolicy (endpoint.seen octets) = .ok message →
    endpoint.handlers.get? message.type = some handler →
    ∀ n, (outcome .recording (handler.run peer message) (endpoint, sent)).1 ≠
      .error (.codec (.tooLarge n))

/-- An endpoint on which nobody had a session at first, and what it has sent since. -/
inductive Serving : Endpoint → List (SocketAddress × Octets) → Prop
  | start {endpoint : Endpoint} (empty : endpoint.registry = {})
    (bound : endpoint.bound.isSome = true) : Serving endpoint []
  /-- any peer sends any datagram, which is handled to its end -/
  | received {endpoint : Endpoint} {sent : List (SocketAddress × Octets)}
    (serving : Serving endpoint sent) (peer : SocketAddress) (octets : Octets)
    (writable : endpoint.Writable sent peer octets) :
    Serving (outcome .recording (receive peer octets) (endpoint, sent)).2.1
      (outcome .recording (receive peer octets) (endpoint, sent)).2.2
  /-- the endpoint, or a handler of its user, does something else, which has nothing to do with the
  sessions -/
  | apart {endpoint next : Endpoint} {sent more : List (SocketAddress × Octets)}
    (serving : Serving endpoint sent) (apart : Apart endpoint next)
    (creates : accepted .createSessionResponse more = 0)
    (deletes : accepted .deleteSessionResponse more = 0) : Serving next (sent ++ more)

/-- The sessions are in order, and there are as many as the answers say. -/
structure Accounted (endpoint : Endpoint) (sent : List (SocketAddress × Octets)) : Prop where
  bound : endpoint.bound.isSome = true
  orderly : endpoint.Orderly
  counted : endpoint.sessionCount + accepted .deleteSessionResponse sent =
    accepted .createSessionResponse sent

theorem Accounted.apart (accounted : Accounted endpoint sent) (apart : Apart endpoint next)
    (creates : accepted .createSessionResponse more = 0)
    (deletes : accepted .deleteSessionResponse more = 0) : Accounted next (sent ++ more) where
  bound := apart.bound accounted.bound
  orderly := accounted.orderly.apart apart
  counted := by
    rw [accepted_append, accepted_append, creates, deletes, sessionCount, apart.registry]
    exact accounted.counted

private theorem Accounted.kept (accounted : Accounted endpoint sent) (apart : Apart endpoint next) :
    Accounted next sent := by
  have h := accounted.apart apart (rfl : accepted .createSessionResponse [] = 0) rfl
  rwa [List.append_nil] at h

theorem apart_events (endpoint : Endpoint) (pending : Pending) (events : List Event) :
    Apart endpoint { endpoint with pending, events } :=
  ⟨rfl, rfl, fun _ _ _ => rfl, rfl, rfl, id⟩

/-- A handler leaves the endpoint with as many sessions more or less as its answer says. -/
private theorem Accounted.run (accounted : Accounted endpoint sent) (handler : Handler)
    (sound : ∀ x ∈ message.elements, Element.Sound .v2 x)
    (writable : ∀ n, (outcome .recording (handler.run peer message) (endpoint, sent)).1 ≠
      .error (.codec (.tooLarge n))) :
    Accounted (outcome .recording (handler.run peer message) (endpoint, sent)).2.1
      (outcome .recording (handler.run peer message) (endpoint, sent)).2.2 := by
  obtain ⟨next, answer?, reacts⟩ :=
    reacts_run quiet_recording idle_recording handler peer message endpoint sent
  have hb : next.bound.isSome = true := by
    rw [reacts.reaction.bound]
    exact accounted.bound
  obtain ⟨sent', hran, haccepted⟩ := reacts.recorded hb sound writable
  -- Both sides of the account change by what the one answer accepts.
  rw [hran]
  refine ⟨hb, accounted.orderly.reaction reacts.reaction, ?_⟩
  have hcount := reacts.reaction.count accounted.orderly
  have hcounted := accounted.counted
  rw [haccepted, haccepted]
  dsimp only at hcount ⊢
  omega

private theorem Accounted.received (accounted : Accounted endpoint sent) (peer : SocketAddress)
    (octets : Octets) (writable : endpoint.Writable sent peer octets) :
    Accounted (outcome .recording (receive peer octets) (endpoint, sent)).2.1
      (outcome .recording (receive peer octets) (endpoint, sent)).2.2 := by
  obtain ⟨events, h⟩ | ⟨sequence, h⟩ | ⟨message, hp, ⟨events, h⟩ | ⟨handler, events, hh, h⟩⟩ :=
    receive_cases quiet_recording endpoint sent peer octets
  -- It cannot be read, or is of another version, or is for a call, or goes to a handler.
  · rw [h]
    exact accounted.kept (apart_events endpoint endpoint.pending events)
  · rw [h, outcome_send_recording accounted.bound]
    cases he : (indication sequence).encode with
    | error e => exact accounted
    | ok octets =>
      have hnone : ∀ kind, accepted kind [(peer, octets)] = 0 := fun kind => by
        rw [accepted, List.countP_singleton, accepting_indication he, if_neg Bool.false_ne_true]
      exact accounted.apart (.refl endpoint) (hnone _) (hnone _)
  · rw [h]
    exact accounted.kept (apart_events endpoint (endpoint.callsAfter peer message) events)
  · have sound := Message.sound_of_mem_of_parse hp
    rw [h]
    exact (accounted.run handler sound (writable message handler hp hh)).kept
      (apart_events _ _ events)

private theorem Serving.accounted (serving : Serving endpoint sent) : Accounted endpoint sent := by
  induction serving with
  | start empty bound =>
    refine ⟨bound, orderly_of_empty empty, ?_⟩
    rw [sessionCount, empty]
    rfl
  | received _ peer octets writable ih => exact ih.received peer octets writable
  | apart _ apart creates deletes ih => exact ih.apart apart creates deletes

/-- Whatever a gateway receives, each session that it has registered is in use, for a subscriber that
is known, and bound to one number, which is the session's own on this side and from the pool. There
are as many sessions as creations were accepted, less the deletions that were. -/
theorem registered_of_serving (serving : Serving endpoint sent) :
    (∀ id ∈ endpoint.registry.sessions, ∃ session teid, endpoint.session? id = some session ∧
      session.Serves endpoint.interface teid ∧
      (∀ teid', endpoint.registry.Binds teid' id ↔ teid' = teid) ∧
      teid ≠ 0 ∧ endpoint.pool.first ≤ teid ∧ teid ≤ endpoint.pool.last) ∧
    endpoint.sessionCount + accepted .deleteSessionResponse sent =
      accepted .createSessionResponse sent := by
  obtain ⟨-, orderly, counted⟩ := serving.accounted
  refine ⟨fun id h => ?_, counted⟩
  obtain ⟨teid, hb⟩ := (Registry.mem_sessions orderly.coherent).1 h
  obtain ⟨session, hs, serves⟩ := orderly.serves teid id hb
  refine ⟨session, teid, hs, serves, fun teid' => ⟨fun hb' => ?_, ?_⟩, orderly.range teid id hb⟩
  · exact orderly.single id teid teid' hb hb'
  · rintro rfl
    exact hb

/-! A subscriber attaches twice and detaches once. -/

private def visitor : SocketAddress := ⟨.v4 ⟨127, 0, 0, 1⟩, 2123, 0⟩

private def vacant : Endpoint :=
  { make ⟨.v4 ⟨127, 0, 0, 10⟩, 2123, 0⟩ 11 7 {} with
    bound := some ⟨.v4 ⟨127, 0, 0, 10⟩, 2123, 0⟩
    handlers := ⟨Handler.standard.entries ++ Handler.gateway⟩ }

private def attach : Octets :=
  ((Message.make .v2 .createSessionRequest { sequence := 1 }
    [plain .v2 Code.imsi 0 [0x00, 0x01, 0x01, 0, 0, 0, 0, 0xf1], V2.ofFteid 10 100 none none,
      V2.ofBearerContext [V2.ofEbi 5]]).encode).toOption.getD []

private def detach : Octets :=
  ((Message.make .v2 .deleteSessionRequest { sequence := 2, teid := some 7 }
    []).encode).toOption.getD []

private def served (octets : Octets) (state : Endpoint × List (SocketAddress × Octets)) :
    Endpoint × List (SocketAddress × Octets) :=
  (outcome .recording (receive visitor octets) state).2

/-- Whether a handler ends well, if the datagram reaches one. -/
private def endsWell (octets : Octets) (state : Endpoint × List (SocketAddress × Octets)) : Bool :=
  match Message.parse .v2 state.1.settings.lengthPolicy (state.1.seen octets) with
  | .error _ => true
  | .ok message =>
    match state.1.handlers.get? message.type with
    | none => true
    | some handler => (outcome .recording (handler.run visitor message) state).1.isOk

private theorem serving_served {state : Endpoint × List (SocketAddress × Octets)} {octets : Octets}
    (serving : Serving state.1 state.2) (h : endsWell octets state = true) :
    Serving (served octets state).1 (served octets state).2 := by
  refine serving.received visitor octets fun message handler hp hh n hr => ?_
  rw [endsWell, hp] at h
  simp only [hh, hr] at h
  cases h

/-- One session is left, and it is in use. -/
theorem registered_of_serving_detached :
    let state := served detach (served attach (served attach (vacant, [])))
    Serving state.1 state.2 ∧ state.1.registry.sessions = [1] ∧ state.2.length = 3 ∧
      (∀ id ∈ state.1.registry.sessions, ∃ session teid, state.1.session? id = some session ∧
        session.Serves state.1.interface teid ∧
        (∀ teid', state.1.registry.Binds teid' id ↔ teid' = teid) ∧
        teid ≠ 0 ∧ state.1.pool.first ≤ teid ∧ teid ≤ state.1.pool.last) ∧
      state.1.sessionCount + accepted .deleteSessionResponse state.2 =
        accepted .createSessionResponse state.2 := by
  have start : Serving (vacant, ([] : List (SocketAddress × Octets))).1 [] := .start rfl rfl
  have first := serving_served start (by decide +kernel : endsWell attach (vacant, []) = true)
  have second := serving_served first (by decide +kernel : endsWell attach _ = true)
  have third := serving_served second (by decide +kernel : endsWell detach _ = true)
  exact ⟨third, by decide +kernel, by decide +kernel, registered_of_serving third⟩

end GtpControl.Endpoint
